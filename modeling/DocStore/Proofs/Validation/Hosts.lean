import DocStore.Proofs.Repo.Status
/-
  DocStore.Proofs.Validation.Hosts — which hosts a server profile may name.

  The host rule takes a text of 1 to 253 characters that is either dot-separated labels
  or a run of hex digits, colons and dots holding a colon. A label is 1 to 63 letters,
  digits and hyphens, neither starting nor ending with a hyphen, where a letter is what
  `[a-z]` matches with case ignored the Unicode way: an ASCII letter, the Kelvin sign
  (U+212A, folding to `k`) or the long s (U+017F, folding to `s`). `Accepted` says this
  over the text's characters, without the rule's own splitting and tests.

  Proved:
  - `hostname_isValid_iff`: the rule accepts exactly the `Accepted` texts;
  - `ServerProfile.validate_isValid_iff_host`, `Document.validate_isValid_iff_hosts`,
    `Repo.Profiles.check_isValid_iff_host`: the profile validator, the document validator
    and the repository's check see a host only through the rule: they accept exactly when
    every host is accepted and they would accept with `example.com` in its place;
  - `Repo.Profiles.add_refuses_host`, `update_refuses_host`: the repository never stores a
    profile whose host the rule refuses.

  So the rule takes more than host names and IPv6 addresses: a lone colon, which is no
  address of RFC 4291 (`Rfc4291.isAddress`), and the Kelvin sign, which is no ASCII
  name (`AsciiName`).
-/

namespace DocStore

namespace Host

/-! ## Accepted hosts -/

/-- A character that `[a-z0-9]` matches when case is ignored the Unicode way. -/
def Letter (c : Char) : Prop :=
  ('a' ≤ c ∧ c ≤ 'z') ∨ ('A' ≤ c ∧ c ≤ 'Z') ∨ ('0' ≤ c ∧ c ≤ '9') ∨ c.toNat = 0x212A ∨ c.toNat = 0x17F

instance : DecidablePred Letter := fun _ => inferInstanceAs (Decidable (_ ∨ _))

/-- One label of a host name: 1 to 63 letters and hyphens, with a letter at each end. -/
def Label (l : List Char) : Prop :=
  1 ≤ l.length ∧ l.length ≤ 63 ∧ (∀ c ∈ l, Letter c ∨ c = '-') ∧ l.head? ≠ some '-' ∧ l.getLast? ≠ some '-'

instance : DecidablePred Label := fun _ => inferInstanceAs (Decidable (_ ∧ _))

def HexDigit (c : Char) : Prop := ('0' ≤ c ∧ c ≤ '9') ∨ ('a' ≤ c ∧ c ≤ 'f') ∨ ('A' ≤ c ∧ c ≤ 'F')

instance : DecidablePred HexDigit := fun _ => inferInstanceAs (Decidable (_ ∨ _))

/-- What passes for an IPv6 address: a colon, and only hex digits, colons and dots. -/
def AddressLike (v : String) : Prop := ':' ∈ v.toList ∧ ∀ c ∈ v.toList, HexDigit c ∨ c = ':' ∨ c = '.'

instance : DecidablePred AddressLike := fun _ => inferInstanceAs (Decidable (_ ∧ _))

/-- A host the host rule accepts. -/
structure Accepted (v : String) : Prop where
  nonempty : v ≠ ""
  length : v.length ≤ 253
  shape : (∀ l ∈ v.toList.splitOn '.', Label l) ∨ AddressLike v

/-! ## The rule -/

theorem isHostAlnum_iff (c : Char) : Pattern.isHostAlnum c = true ↔ Letter c := by
  simp [Pattern.isHostAlnum, Letter, Char.isAlphanum, Char.isAlpha, Char.isUpper, Char.isLower, Char.isDigit,
    Char.le_def, UInt32.le_iff_toNat_le]
  omega

theorem not_letter_dash : ¬ Letter '-' := by decide

/-- The rule's own splitting at a separator is the library's. -/
theorem splitAt_eq_splitOn (sep : Char) (cs : List Char) : Pattern.splitAt sep cs = cs.splitOn sep := by
  induction cs with
  | nil => rfl
  | cons c rest ih =>
    rw [Pattern.splitAt, List.splitOn_cons_eq_if_modifyHead, ih]
    by_cases hc : c = sep
    · simp [hc]
    · -- splitting never gives no part, so the character joins the first one
      obtain ⟨first, more, hfm⟩ := List.exists_cons_of_ne_nil (List.splitOn_ne_nil sep rest)
      simp [hc, hfm]

theorem isLabel_iff (l : List Char) : Pattern.isLabel l = true ↔ Label l := by
  unfold Pattern.isLabel Label
  cases l with
  | nil => simp
  | cons a rest =>
    obtain ⟨z, hz⟩ : ∃ z, (a :: rest).getLast? = some z :=
      ⟨_, List.getLast?_eq_some_getLast (List.cons_ne_nil a rest)⟩
    have hzmem : z ∈ a :: rest := List.mem_of_getLast? hz
    simp only [List.head?_cons, hz, Bool.and_eq_true, decide_eq_true_eq, List.all_eq_true, Bool.or_eq_true,
      isHostAlnum_iff, ne_eq, Option.some.injEq]
    constructor
    · rintro ⟨⟨⟨hlen, ha⟩, hz'⟩, hall⟩
      refine ⟨by simp, hlen, fun c hc => (hall c hc).imp_right (by simp), ?_, ?_⟩
      · rintro rfl
        exact not_letter_dash ha
      · rintro rfl
        exact not_letter_dash hz'
    · rintro ⟨-, hlen, hall, ha, hz'⟩
      -- the ends are letters: each is a letter or a hyphen, and not a hyphen
      have hends : ∀ c ∈ a :: rest, c ≠ '-' → Letter c := fun c hc hne => (hall c hc).resolve_right hne
      exact ⟨⟨⟨hlen, hends a (by simp) ha⟩, hends z hzmem hz'⟩, fun c hc => (hall c hc).imp_right (by simp)⟩

theorem isHostName_iff (v : String) : Pattern.isHostName v = true ↔ ∀ l ∈ v.toList.splitOn '.', Label l := by
  simp [Pattern.isHostName, splitAt_eq_splitOn, isLabel_iff]

theorem hexDigit_iff (c : Char) :
    (c.isDigit || ('a' ≤ c && c ≤ 'f') || ('A' ≤ c && c ≤ 'F') || c = ':' || c = '.') = true ↔
      HexDigit c ∨ c = ':' ∨ c = '.' := by
  simp [HexDigit, Char.isDigit, Char.le_def, UInt32.le_iff_toNat_le, or_assoc]

theorem addressLike_iff (v : String) : v.contains ':' = true ∧ Pattern.isAddressLike v = true ↔ AddressLike v := by
  simp only [Pattern.isAddressLike, AddressLike, String.contains_char_eq, Bool.and_eq_true, decide_eq_true_eq,
    Bool.not_eq_true', String.isEmpty_eq_false_iff, List.all_eq_true, hexDigit_iff]
  constructor
  · rintro ⟨hc, -, hall⟩
    exact ⟨hc, hall⟩
  · rintro ⟨hc, hall⟩
    refine ⟨hc, ?_, hall⟩
    rintro rfl
    simp at hc

/-- The host rule accepts exactly the accepted hosts. -/
theorem hostname_isValid_iff (field v : String) : (FieldRule.hostname field v).isValid = true ↔ Accepted v := by
  unfold FieldRule.hostname
  by_cases he : v.isEmpty = true
  · -- an empty host is only "required"
    have hv : v = "" := String.isEmpty_iff.1 he
    simp only [he, if_true, Verdict.isValid_fail, Bool.false_eq_true, false_iff]
    exact fun h => h.nonempty hv
  · have hv : v ≠ "" := fun h => he (String.isEmpty_iff.2 h)
    have hpos : 1 ≤ v.length := Nat.pos_of_ne_zero (mt String.length_eq_zero_iff.1 hv)
    simp only [he, Bool.false_eq_true, if_false, Verdict.isValid_and, Verdict.isValid_check, FieldRule.length,
      Bool.and_eq_true, Bool.or_eq_true, decide_eq_true_eq, isHostName_iff, addressLike_iff]
    constructor
    · rintro ⟨⟨-, hlen⟩, hshape⟩
      exact ⟨hv, hlen, hshape⟩
    · rintro ⟨-, hlen, hshape⟩
      exact ⟨⟨hpos, hlen⟩, hshape⟩

/-- The host the statements below put in place of a profile's own. -/
def reference : String := "example.com"

theorem accepted_reference : Accepted reference :=
  ⟨by decide, by decide +kernel, .inl ((isHostName_iff _).1 (by decide +kernel))⟩

end Host

/-! ## The validators that use the rule -/

namespace ServerProfile

open Host

/-- A profile passes its validator exactly when its host is accepted and it would pass with
the reference host. -/
theorem validate_isValid_iff_host (p : ServerProfile) :
    p.validate.isValid = true ↔ Accepted p.host ∧ { p with host := reference }.validate.isValid = true := by
  simp only [ServerProfile.validate, profileValidator, Validator.isValid_validate, Validator.rules_rule,
    List.nil_append, List.cons_append, List.all_cons, List.all_nil, Bool.and_true, Bool.and_eq_true,
    ← hostname_isValid_iff "host"]
  have href : (FieldRule.hostname "host" reference).isValid = true :=
    (hostname_isValid_iff "host" _).2 accepted_reference
  simp only [href, true_and]
  have hts : profileTimestamps { p with host := reference } = profileTimestamps p := rfl
  rw [hts]
  constructor
  · rintro ⟨hi, hn, hh, hp, hu, hs, ht⟩
    exact ⟨hh, hi, hn, hp, hu, hs, ht⟩
  · rintro ⟨hh, hi, hn, hp, hu, hs, ht⟩
    exact ⟨hi, hn, hh, hp, hu, hs, ht⟩

end ServerProfile

namespace Document

open Host

/-- The document with every server profile's host replaced by `h`. -/
def withHost (h : String) (d : Document) : Document :=
  { d with serverProfiles := d.serverProfiles.map fun p => { p with host := h } }

theorem roster_withHost (m : Nat) (ps : List ServerProfile) :
    Roster ServerProfile.validate (·.id) (·.name) m ps ↔
      (∀ p ∈ ps, Accepted p.host) ∧
        Roster ServerProfile.validate (·.id) (·.name) m (ps.map fun p => { p with host := reference }) := by
  -- the ids, names and number of profiles do not see their hosts
  have hids : ((ps.map fun p => { p with host := reference }).map (·.id)) = ps.map (·.id) := by
    simp [List.map_map, Function.comp_def]
  have hnames : ((ps.map fun p => { p with host := reference }).map fun p => Text.toLowerFull p.name) =
      ps.map fun p => Text.toLowerFull p.name := by
    simp [List.map_map, Function.comp_def]
  constructor
  · rintro ⟨hv, hi, hn, hs⟩
    refine ⟨fun p hp => ((ServerProfile.validate_isValid_iff_host p).1 (hv p hp)).1, ?_, by rwa [hids],
      by rwa [hnames], by simpa using hs⟩
    intro q hq
    obtain ⟨p, hp, rfl⟩ := List.mem_map.1 hq
    exact ((ServerProfile.validate_isValid_iff_host p).1 (hv p hp)).2
  · rintro ⟨hacc, hv, hi, hn, hs⟩
    refine ⟨fun p hp => (ServerProfile.validate_isValid_iff_host p).2 ⟨hacc p hp, hv _ (List.mem_map_of_mem hp)⟩,
      by rwa [hids] at hi, by rwa [hnames] at hn, by simpa using hs⟩

theorem linked_withHost (h : String) (d : Document) : (d.withHost h).Linked ↔ d.Linked := by
  constructor
  · rintro ⟨hp, hq, hk, ho⟩
    refine ⟨fun p hp' => hp { p with host := h } (List.mem_map.2 ⟨p, hp', rfl⟩), fun q hq' => ?_, hk, ho⟩
    obtain ⟨s, hs, hid⟩ := hq q hq'
    obtain ⟨s', hs', rfl⟩ := List.mem_map.1 hs
    exact ⟨s', hs', hid⟩
  · rintro ⟨hp, hq, hk, ho⟩
    refine ⟨fun p hp' => ?_, fun q hq' => ?_, hk, ho⟩
    · obtain ⟨p', hp'', rfl⟩ := List.mem_map.1 hp'
      exact hp p' hp''
    · obtain ⟨s, hs, hid⟩ := hq q hq'
      exact ⟨_, List.mem_map_of_mem hs, hid⟩

theorem wellFormed_iff_hosts (d : Document) :
    d.WellFormed ↔ (∀ p ∈ d.serverProfiles, Accepted p.host) ∧ (d.withHost reference).WellFormed := by
  constructor
  · intro hd
    obtain ⟨hacc, hr⟩ := (roster_withHost _ _).1 hd.serverProfiles
    exact ⟨hacc, ⟨hd.version, hd.identities, hr, hd.projects, hd.messages, hd.total,
      (linked_withHost reference d).2 hd.linked⟩⟩
  · rintro ⟨hacc, hw⟩
    exact ⟨hw.version, hw.identities, (roster_withHost _ _).2 ⟨hacc, hw.serverProfiles⟩, hw.projects, hw.messages,
      hw.total, (linked_withHost reference d).1 hw.linked⟩

/-- A document passes validation exactly when every profile's host is accepted and it would
pass with the reference host in every profile. -/
theorem validate_isValid_iff_hosts (d : Document) :
    d.validate.isValid = true ↔
      (∀ p ∈ d.serverProfiles, Accepted p.host) ∧ (d.withHost reference).validate.isValid = true := by
  rw [validate_isValid_iff, validate_isValid_iff, wellFormed_iff_hosts]

end Document

/-! ## The repository -/

namespace Repo.Profiles

open Host

variable {now : Instant}

/-- The repository's check of a change sees the profile's host only through the host rule. -/
theorem check_isValid_iff_host (n : Nat) (c : Proposed ServerProfile) (rt : Runtime Unit) :
    ((check n).check c 0 rt).1.isValid = true ↔
      Accepted c.entity.host ∧
        ((check n).check { c with entity := { c.entity with host := reference } } 0 rt).1.isValid = true := by
  simp only [check, pipeline_isValid, List.all_cons, List.all_nil, Bool.and_true, Bool.and_eq_true]
  rw [ServerProfile.validate_isValid_iff_host c.entity]
  -- uniqueness, the identity reference and the capacity do not see the host
  have hu : unique entity (·.id) (·.name) c.document.serverProfiles { c.entity with host := reference } =
      unique entity (·.id) (·.name) c.document.serverProfiles c.entity := rfl
  have he : identityExists c.document { c.entity with host := reference } = identityExists c.document c.entity := rfl
  simp only [hu, he, and_assoc]

theorem timeout_run (v : Vault) : timeout.run.run v = (.ok v.config.validationTimeoutMs, v) := rfl

/-- A change whose profile's host the rule refuses is refused. -/
theorem commit_refuses_host {p : ServerProfile} (hp : ¬ Accepted p.host) (w : Vault) (c : Proposed ServerProfile)
    (hc : c.entity = p) :
    ((do let _ ← commit now (check (← timeout)) entity p.name c; pure p : RepoOp ServerProfile).run.run w) =
      (.error (classify entity p.name ((check w.config.validationTimeoutMs).check c 0 { world := () }).1.issues),
        w) := by
  have hv : ((check w.config.validationTimeoutMs).check c 0 { world := () }).1.isValid = false := by
    cases h : ((check w.config.validationTimeoutMs).check c 0 { world := () }).1.isValid
    · rfl
    · exact absurd (hc ▸ ((check_isValid_iff_host _ c _).1 h).1) hp
  exact commit_refused now (timeout_run w) check entity p.name c p hv

/-- Adding a profile whose host the rule refuses fails. -/
theorem add_refuses_host {p : ServerProfile} (hp : ¬ Accepted p.host) (v : Vault) :
    ∃ e w, (add now p).run.run v = (.error e, w) := by
  unfold add
  rcases hl : (ofStore (Vault.load now)).run.run v with ⟨_ | d, w⟩
  · rw [run_bind_error _ hl]
    exact ⟨_, _, rfl⟩
  · rw [run_bind_ok _ hl, commit_refuses_host hp w _ rfl]
    exact ⟨_, _, rfl⟩

/-- Updating a profile to one whose host the rule refuses fails. -/
theorem update_refuses_host {p : ServerProfile} (hp : ¬ Accepted p.host) (v : Vault) :
    ∃ e w, (update now p).run.run v = (.error e, w) := by
  unfold update
  rcases hl : (ofStore (Vault.load now)).run.run v with ⟨_ | d, w⟩
  · rw [run_bind_error _ hl]
    exact ⟨_, _, rfl⟩
  · rw [run_bind_ok _ hl]
    cases hr : replaceFirst (·.id) p d.serverProfiles with
    | none => exact ⟨_, _, rfl⟩
    | some r =>
      obtain ⟨old, items⟩ := r
      dsimp only
      rw [commit_refuses_host hp w _ rfl]
      exact ⟨_, _, rfl⟩

end Repo.Profiles

/-! ## What the rule was meant to accept -/

namespace Rfc4291

/-- A hex digit. -/
def isHex (c : Char) : Bool := c.isDigit || ('a' ≤ c && c ≤ 'f') || ('A' ≤ c && c ≤ 'F')

/-- One to four hex digits: sixteen bits of the address. -/
def isPiece (g : List Char) : Bool := !g.isEmpty && g.length ≤ 4 && g.all isHex

/-- A decimal number from 0 to 255, in one to three digits. -/
def isOctet (g : List Char) : Bool :=
  !g.isEmpty && g.length ≤ 3 && g.all Char.isDigit &&
    decide (g.foldl (fun n c => 10 * n + (c.toNat - '0'.toNat)) 0 ≤ 255)

/-- Four octets between dots: the last thirty-two bits written as an IPv4 address. -/
def isQuad (g : List Char) : Bool := (g.splitOn '.').length == 4 && (g.splitOn '.').all isOctet

/-- How many sixteen-bit pieces colon-separated groups stand for, the last one possibly a
dotted quad (worth two); none when a group is neither. -/
def width : List (List Char) → Option Nat
  | [] => some 0
  | [g] => if isPiece g then some 1 else if isQuad g then some 2 else none
  | g :: gs => if isPiece g then (width gs).map (· + 1) else none

/-- The text before the first `::` and the text after it. -/
def splitDouble : List Char → Option (List Char × List Char)
  | ':' :: ':' :: rest => some ([], rest)
  | c :: rest => (splitDouble rest).map fun (a, b) => (c :: a, b)
  | [] => none

/-- The text forms of an IPv6 address (RFC 4291, section 2.2): eight pieces; or `::` standing
for one or more zero pieces between the pieces before it and those after it; in either, the
last two pieces possibly written as a dotted quad. -/
def isAddress (s : List Char) : Bool :=
  match splitDouble s with
  | none => width (s.splitOn ':') == some 8
  | some (front, back) =>
    let f := if front.isEmpty then some 0
      else if (front.splitOn ':').all isPiece then some (front.splitOn ':').length else none
    let b := if back.isEmpty then some 0 else width (back.splitOn ':')
    match f, b with
    | some m, some n => decide (m + n ≤ 7)
    | _, _ => false

example : isAddress "fe80::1".toList = true := by decide +kernel
example : isAddress "::ffff:10.0.0.1".toList = true := by decide +kernel
example : isAddress "1:2:3:4:5:6:7:8:9".toList = false := by decide +kernel

end Rfc4291

namespace Host

/-- A host name of RFC 1123: dot-separated labels of 1 to 63 ASCII letters, digits and
hyphens, neither starting nor ending with a hyphen. -/
def AsciiName (v : String) : Prop :=
  ∀ l ∈ v.toList.splitOn '.', 1 ≤ l.length ∧ l.length ≤ 63 ∧ (∀ c ∈ l, c.isAlphanum = true ∨ c = '-') ∧
    l.head? ≠ some '-' ∧ l.getLast? ≠ some '-'

end Host

end DocStore
