import Mathlib
import DocStore.Json.Write
/-
  DocStore.Proofs.Json.Layout — the texts of a JSON value: its tokens, with blanks where a
  reader skips them.

  `Json.Written j t` says that `t` spells `j`: a scalar as the writer spells it, an array
  or object as its brackets around items or members, with runs of blanks (space, tab,
  line feed, carriage return) before and after every token. The items of an array are
  separated by commas (`Json.ItemsWritten`), the members of an object too, each a quoted
  key, a colon and a value (`Json.MembersWritten`).

  Proved: both writers spell their value so. The compact text has no blanks at all
  (`compact_written`; exactly, its items and members joined by commas: `compact_arr`,
  `compact_obj`); the indented one puts a line break and indentation before every
  item and member and before the closing bracket (`prettyText_written`). A reader that
  skips blanks between tokens is then shown correct once, on `Written`.
-/

namespace DocStore

namespace JsonText

/-- A character a reader skips between tokens. -/
def IsBlank (c : Char) : Prop := c = ' ' ∨ c = '\t' ∨ c = '\n' ∨ c = '\r'

/-- A run of blanks. -/
def Blank (t : List Char) : Prop := ∀ c ∈ t, IsBlank c

/-- What stands before an item or member: nothing before the first, a comma and blanks
before the others. -/
def Sep (first : Bool) (s : List Char) : Prop :=
  if first then s = [] else ∃ b, Blank b ∧ s = ',' :: b

@[simp] theorem blank_nil : Blank [] := by simp [Blank]

theorem Blank.append {b b' : List Char} (h : Blank b) (h' : Blank b') : Blank (b ++ b') := by
  intro c hc
  rcases List.mem_append.1 hc with hc | hc
  · exact h c hc
  · exact h' c hc

theorem Blank.cons {c : Char} {b : List Char} (hc : IsBlank c) (h : Blank b) : Blank (c :: b) := by
  intro d hd
  rcases List.mem_cons.1 hd with rfl | hd
  · exact hc
  · exact h d hd

theorem blank_replicate_space (n : Nat) : Blank (List.replicate n ' ') := by
  intro c hc
  exact .inl (List.eq_of_mem_replicate hc)

theorem sep_first : Sep true [] := by simp [Sep]

theorem sep_comma {b : List Char} (h : Blank b) : Sep false (',' :: b) := ⟨b, h, rfl⟩

/-- The compact writer's separator: a comma before every item but the first. -/
theorem sep_push (acc : String) (first : Bool) :
    ∃ s, (if first then acc else acc.push ',').toList = acc.toList ++ s ∧ Sep first s := by
  cases first
  · exact ⟨[','], by simp, sep_comma blank_nil⟩
  · exact ⟨[], by simp, sep_first⟩

/-- The indented writer's separator: a comma and a line break before every item but the first. -/
theorem sep_append (acc : String) (first : Bool) :
    ∃ s, (if first then acc else acc ++ ",\n").toList = acc.toList ++ s ∧ Sep first s := by
  cases first
  · exact ⟨[',', '\n'], by simp, sep_comma (Blank.cons (.inr (.inr (.inl rfl))) blank_nil)⟩
  · exact ⟨[], by simp, sep_first⟩

theorem blank_indent (level : Nat) : Blank (Json.indent level).toList := by
  simpa [Json.indent] using blank_replicate_space (2 * level)

/-- Texts joined by commas, with a comma before the first unless it comes first in its list. -/
def joinText (first : Bool) : List (List Char) → List Char
  | [] => []
  | t :: ts => (if first then [] else [',']) ++ (t ++ joinText false ts)

theorem length_le_length_joinText {ts : List (List Char)} (h : ∀ t ∈ ts, t ≠ []) (first : Bool) :
    ts.length ≤ (joinText first ts).length := by
  induction ts generalizing first with
  | nil => simp
  | cons t ts ih =>
    have ht := List.length_pos_of_ne_nil (h t List.mem_cons_self)
    have hts := ih (fun t' ht' => h t' (List.mem_cons_of_mem _ ht')) false
    simp only [joinText, List.length_append, List.length_cons]
    omega

end JsonText

open JsonText

namespace Json

mutual

/-- `t` is a text of the value `j`. -/
inductive Written : Json → List Char → Prop
  | null : Written .null "null".toList
  | bool (b : Bool) : Written (.bool b) (if b then "true" else "false").toList
  | num (n : JsonNumber) : Written (.num n) (JsonText.number n).toList
  | str (s : String) : Written (.str s) (JsonText.quote s).toList
  | arr {xs : List Json} {t : List Char} : ItemsWritten true xs t → Written (.arr xs) ('[' :: t ++ [']'])
  | obj {ms : List (String × Json)} {t : List Char} :
      MembersWritten true ms t → Written (.obj ms) ('{' :: t ++ ['}'])

/-- `t` is the text of the items `xs` of an array, between its brackets; `first` when no
item stands before them. -/
inductive ItemsWritten : Bool → List Json → List Char → Prop
  | done {first : Bool} {b : List Char} : Blank b → ItemsWritten first [] b
  | next {first : Bool} {x : Json} {xs : List Json} {b s tx t : List Char} :
      Blank b → Sep first s → Written x tx → ItemsWritten false xs t →
      ItemsWritten first (x :: xs) (b ++ s ++ tx ++ t)

/-- `t` is the text of the members `ms` of an object, between its braces. -/
inductive MembersWritten : Bool → List (String × Json) → List Char → Prop
  | done {first : Bool} {b : List Char} : Blank b → MembersWritten first [] b
  | next {first : Bool} {k : String} {v : Json} {ms : List (String × Json)} {b s b₁ b₂ tv t : List Char} :
      Blank b → Sep first s → Blank b₁ → Blank b₂ → Written v tv → MembersWritten false ms t →
      MembersWritten first ((k, v) :: ms) (b ++ s ++ (JsonText.quote k).toList ++ b₁ ++ ':' :: b₂ ++ tv ++ t)

end

/-! ## The compact text -/

mutual

theorem writeCompact_written : ∀ (acc : String) (j : Json),
    ∃ t, (writeCompact acc j).toList = acc.toList ++ t ∧ Written j t
  | acc, .null => ⟨_, by simp [writeCompact], .null⟩
  | acc, .bool b => ⟨_, by simp [writeCompact], .bool b⟩
  | acc, .num n => ⟨_, by simp [writeCompact], .num n⟩
  | acc, .str s => ⟨_, by simp [writeCompact], .str s⟩
  | acc, .arr xs => by
    obtain ⟨t, ht, hw⟩ := writeItems_written (acc.push '[') true xs
    exact ⟨'[' :: t ++ [']'], by simp [writeCompact, ht], .arr hw⟩
  | acc, .obj ms => by
    obtain ⟨t, ht, hw⟩ := writeMembers_written (acc.push (Char.ofNat 123)) true ms
    exact ⟨'{' :: t ++ ['}'], by simp [writeCompact, ht], .obj hw⟩

theorem writeItems_written : ∀ (acc : String) (first : Bool) (xs : List Json),
    ∃ t, (writeItems acc first xs).toList = acc.toList ++ t ∧ ItemsWritten first xs t
  | acc, first, [] => ⟨[], by simp [writeItems], .done blank_nil⟩
  | acc, first, x :: xs => by
    let acc' := if first then acc else acc.push ','
    obtain ⟨s, hs, hsep⟩ := sep_push acc first
    replace hs : acc'.toList = acc.toList ++ s := hs
    obtain ⟨tx, hx, hwx⟩ := writeCompact_written acc' x
    obtain ⟨t, ht, hw⟩ := writeItems_written (writeCompact acc' x) false xs
    refine ⟨s ++ tx ++ t, ?_, ?_⟩
    · rw [show writeItems acc first (x :: xs) = writeItems (writeCompact acc' x) false xs from rfl, ht, hx, hs]
      simp
    · simpa using ItemsWritten.next blank_nil hsep hwx hw

theorem writeMembers_written : ∀ (acc : String) (first : Bool) (ms : List (String × Json)),
    ∃ t, (writeMembers acc first ms).toList = acc.toList ++ t ∧ MembersWritten first ms t
  | acc, first, [] => ⟨[], by simp [writeMembers], .done blank_nil⟩
  | acc, first, (k, v) :: ms => by
    let acc' := if first then acc else acc.push ','
    obtain ⟨s, hs, hsep⟩ := sep_push acc first
    replace hs : acc'.toList = acc.toList ++ s := hs
    obtain ⟨tv, hv, hwv⟩ := writeCompact_written ((acc' ++ JsonText.quote k).push ':') v
    obtain ⟨t, ht, hw⟩ := writeMembers_written (writeCompact ((acc' ++ JsonText.quote k).push ':') v) false ms
    refine ⟨s ++ (JsonText.quote k).toList ++ ':' :: tv ++ t, ?_, ?_⟩
    · rw [show writeMembers acc first ((k, v) :: ms) =
          writeMembers (writeCompact ((acc' ++ JsonText.quote k).push ':') v) false ms from rfl, ht, hv]
      simp [hs]
    · simpa using MembersWritten.next (k := k) blank_nil hsep blank_nil blank_nil hwv hw

end

/-- The compact text of a value spells it. -/
theorem compact_written (j : Json) : Written j j.compact.toList := by
  obtain ⟨t, ht, hw⟩ := writeCompact_written "" j
  simpa [compact, ht] using hw

/-! The compact text exactly: items and members joined by bare commas. -/

mutual

theorem writeCompact_toList : ∀ (acc : String) (j : Json), (writeCompact acc j).toList = acc.toList ++ j.compact.toList
  | acc, .null => by simp [writeCompact, compact]
  | acc, .bool b => by simp [writeCompact, compact]
  | acc, .num n => by simp [writeCompact, compact]
  | acc, .str s => by simp [writeCompact, compact]
  | acc, .arr xs => by simp [writeCompact, compact, writeItems_toList]
  | acc, .obj ms => by simp [writeCompact, compact, writeMembers_toList]

theorem writeItems_toList : ∀ (acc : String) (first : Bool) (xs : List Json),
    (writeItems acc first xs).toList = acc.toList ++ joinText first (xs.map fun x => x.compact.toList)
  | acc, first, [] => by simp [writeItems, joinText]
  | acc, first, x :: xs => by
    rw [show writeItems acc first (x :: xs) =
        writeItems (writeCompact (if first then acc else acc.push ',') x) false xs from rfl,
      writeItems_toList, writeCompact_toList]
    cases first <;> simp [joinText]

theorem writeMembers_toList : ∀ (acc : String) (first : Bool) (ms : List (String × Json)),
    (writeMembers acc first ms).toList =
      acc.toList ++ joinText first (ms.map fun m => (quote m.1).toList ++ ':' :: m.2.compact.toList)
  | acc, first, [] => by simp [writeMembers, joinText]
  | acc, first, (k, v) :: ms => by
    rw [show writeMembers acc first ((k, v) :: ms) =
        writeMembers (writeCompact (((if first then acc else acc.push ',') ++ quote k).push ':') v) false ms
      from rfl, writeMembers_toList, writeCompact_toList]
    cases first <;> simp [joinText]

end

theorem compact_null : Json.null.compact.toList = ['n', 'u', 'l', 'l'] := by
  simp [compact, writeCompact]

theorem compact_bool (v : Bool) : (Json.bool v).compact.toList = (if v then "true" else "false").toList := by
  simp [compact, writeCompact]

theorem compact_nat (n : Nat) : (Json.ofNat n).compact.toList = Nat.toDigits 10 n := by
  simp [compact, writeCompact, ofNat, JsonText.number, Nat.toString_eq_repr, Nat.toList_repr]

theorem compact_str (s : String) : (Json.str s).compact.toList = (quote s).toList := by
  simp [compact, writeCompact]

theorem compact_arr (xs : List Json) :
    (Json.arr xs).compact.toList = '[' :: joinText true (xs.map fun x => x.compact.toList) ++ [']'] := by
  simp [compact, writeCompact, writeItems_toList]

theorem compact_obj (ms : List (String × Json)) :
    (Json.obj ms).compact.toList =
      '{' :: joinText true (ms.map fun m => (quote m.1).toList ++ ':' :: m.2.compact.toList) ++ ['}'] := by
  simp [compact, writeCompact, writeMembers_toList]

/-! ## The indented text -/

mutual

theorem writePretty_written : ∀ (level : Nat) (acc : String) (j : Json),
    ∃ t, (writePretty level acc j).toList = acc.toList ++ t ∧ Written j t
  | level, acc, .null => writeCompact_written acc .null
  | level, acc, .bool b => writeCompact_written acc (.bool b)
  | level, acc, .num n => writeCompact_written acc (.num n)
  | level, acc, .str s => writeCompact_written acc (.str s)
  | level, acc, .arr [] => ⟨_, by simp [writePretty], .arr (.done blank_nil)⟩
  | level, acc, .obj [] => ⟨['{', '}'], by simp [writePretty], .obj (.done blank_nil)⟩
  | level, acc, .arr (x :: xs) => by
    obtain ⟨t, ht, hw⟩ := writePrettyItems_written (level + 1) (acc ++ "[\n") true (x :: xs)
    refine ⟨'[' :: ('\n' :: t ++ '\n' :: (indent level).toList) ++ [']'], ?_, .arr ?_⟩
    · simp [writePretty, ht]
    · simpa using hw ['\n'] ('\n' :: (indent level).toList) (Blank.cons (.inr (.inr (.inl rfl))) blank_nil)
        (Blank.cons (.inr (.inr (.inl rfl))) (blank_indent level))
  | level, acc, .obj (m :: ms) => by
    obtain ⟨t, ht, hw⟩ := writePrettyMembers_written (level + 1) ((acc.push (Char.ofNat 123)).push '\n') true (m :: ms)
    refine ⟨'{' :: ('\n' :: t ++ '\n' :: (indent level).toList) ++ ['}'], ?_, .obj ?_⟩
    · simp [writePretty, ht]
    · simpa using hw ['\n'] ('\n' :: (indent level).toList) (Blank.cons (.inr (.inr (.inl rfl))) blank_nil)
        (Blank.cons (.inr (.inr (.inl rfl))) (blank_indent level))

/-- The items as the indented writer puts them, with any blanks before and after. -/
theorem writePrettyItems_written : ∀ (level : Nat) (acc : String) (first : Bool) (xs : List Json),
    ∃ t, (writePrettyItems level acc first xs).toList = acc.toList ++ t ∧
      ∀ b₀ b, Blank b₀ → Blank b → ItemsWritten first xs (b₀ ++ t ++ b)
  | level, acc, first, [] => ⟨[], by simp [writePrettyItems], fun b₀ b h₀ h => .done (by simpa using h₀.append h)⟩
  | level, acc, first, x :: xs => by
    let acc' := if first then acc else acc ++ ",\n"
    obtain ⟨s, hs, hsep⟩ := sep_append acc first
    replace hs : acc'.toList = acc.toList ++ s := hs
    obtain ⟨tx, hx, hwx⟩ := writePretty_written level (acc' ++ indent level) x
    obtain ⟨t, ht, hw⟩ := writePrettyItems_written level (writePretty level (acc' ++ indent level) x) false xs
    refine ⟨s ++ (indent level).toList ++ tx ++ t, ?_, fun b₀ b h₀ h => ?_⟩
    · rw [show writePrettyItems level acc first (x :: xs) =
          writePrettyItems level (writePretty level (acc' ++ indent level) x) false xs from rfl, ht, hx]
      simp [hs]
    · -- the indentation joins the blanks before the first item, and follows the comma before the others
      cases first
      · obtain ⟨b', hb', rfl⟩ := hsep
        simpa using ItemsWritten.next h₀ (sep_comma (hb'.append (blank_indent level))) hwx (hw [] b blank_nil h)
      · simp only [JsonText.Sep, if_true] at hsep
        subst hsep
        simpa using ItemsWritten.next (h₀.append (blank_indent level)) sep_first hwx (hw [] b blank_nil h)

/-- The members as the indented writer puts them, with any blanks before and after. -/
theorem writePrettyMembers_written : ∀ (level : Nat) (acc : String) (first : Bool) (ms : List (String × Json)),
    ∃ t, (writePrettyMembers level acc first ms).toList = acc.toList ++ t ∧
      ∀ b₀ b, Blank b₀ → Blank b → MembersWritten first ms (b₀ ++ t ++ b)
  | level, acc, first, [] =>
    ⟨[], by simp [writePrettyMembers], fun b₀ b h₀ h => .done (by simpa using h₀.append h)⟩
  | level, acc, first, (k, v) :: ms => by
    let acc' := if first then acc else acc ++ ",\n"
    obtain ⟨s, hs, hsep⟩ := sep_append acc first
    replace hs : acc'.toList = acc.toList ++ s := hs
    obtain ⟨tv, hv, hwv⟩ := writePretty_written level (acc' ++ indent level ++ JsonText.quote k ++ ": ") v
    obtain ⟨t, ht, hw⟩ :=
      writePrettyMembers_written level (writePretty level (acc' ++ indent level ++ JsonText.quote k ++ ": ") v) false ms
    refine ⟨s ++ (indent level).toList ++ (JsonText.quote k).toList ++ ':' :: ' ' :: tv ++ t, ?_,
      fun b₀ b h₀ h => ?_⟩
    · rw [show writePrettyMembers level acc first ((k, v) :: ms) =
          writePrettyMembers level (writePretty level (acc' ++ indent level ++ JsonText.quote k ++ ": ") v) false ms
          from rfl, ht, hv]
      simp [hs]
    · have hsp : Blank [' '] := Blank.cons (.inl rfl) blank_nil
      cases first
      · obtain ⟨b', hb', rfl⟩ := hsep
        simpa using MembersWritten.next (k := k) h₀ (sep_comma (hb'.append (blank_indent level))) blank_nil hsp hwv
          (hw [] b blank_nil h)
      · simp only [JsonText.Sep, if_true] at hsep
        subst hsep
        simpa using MembersWritten.next (k := k) (h₀.append (blank_indent level)) sep_first blank_nil hsp hwv
          (hw [] b blank_nil h)

end

/-- The indented text of a value spells it. -/
theorem prettyText_written (j : Json) : Written j j.prettyText.toList := by
  obtain ⟨t, ht, hw⟩ := writePretty_written 0 "" j
  simpa [prettyText, pretty, ht] using hw

end Json

end DocStore
