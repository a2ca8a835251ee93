import DocStore.Store.Config
import DocStore.Blob.Key
/-
  DocStore.Proofs.Store.ConfigKeys — which keys of a checked configuration a byte store
  takes.

  The configuration's key rule and the byte store's agree on characters: ASCII letters and
  digits, `_`, `-` and `.`. The byte store also refuses a key that starts with a dot or is
  longer than 128 bytes, and the configuration's rule lets both through, so a checked
  configuration can name a key that every read and write of the store refuses (`.doc`).

  Proved: a key the configuration's rule passes is not blank and is made of key
  characters (`checkKey_ok`); on such a key the byte store's rule comes down to the two
  conditions the configuration does not check (`validKey_of_checkKey`); and so for both
  keys of a checked configuration (`validKey_of_check`).
-/

namespace DocStore

namespace Config

variable {field key : String}

/-- The character set of the configuration's rule is the byte store's. -/
theorem configKeyChar_eq (c : Char) :
    ((c.isAlphanum && c.toNat < 128) || c == '_' || c == '-' || c == '.') = Blob.isKeyChar c := by
  unfold Blob.isKeyChar
  cases (c.isAlphanum && decide (c.toNat < 128)) <;> cases c == '_' <;> cases c == '-' <;> cases c == '.' <;> rfl

/-- A key the configuration's rule passes is not blank and holds only key characters. -/
theorem checkKey_ok (h : checkKey field key = .ok ()) :
    Text.isBlankText key = false ∧ key.toList.all Blob.isKeyChar = true := by
  cases hb : Text.isBlankText key
  · cases hc : key.toList.all (fun c => (c.isAlphanum && c.toNat < 128) || c == '_' || c == '-' || c == '.')
    · -- the character rule refuses, whether or not the separator rule does before it
      cases hs : (decide ((key.splitOn "..").length > 1) || key.contains '/' || key.contains '\\') <;>
        simp only [checkKey, hb, hc, hs, Bool.false_eq_true, ↓reduceIte] at h <;> cases h
    · exact ⟨rfl, by simpa only [configKeyChar_eq] using hc⟩
  · simp only [checkKey, hb] at h
    cases h

/-- On a key the configuration's rule passes, the byte store asks only that it fit in 128
bytes and not start with a dot. -/
theorem validKey_of_checkKey (h : checkKey field key = .ok ()) :
    Blob.validKey key = (decide (key.utf8ByteSize ≤ 128) && !key.startsWith ".") := by
  obtain ⟨hblank, hchars⟩ := checkKey_ok h
  have hne : key.isEmpty = false := by
    cases he : key.isEmpty
    · rfl
    · rw [String.isEmpty_iff.1 he] at hblank
      cases hblank
  simp [Blob.validKey, hne, hchars]

/-- Both keys of a checked configuration pass the configuration's key rule. -/
theorem check_ok_keys {c : Config} (h : c.check = .ok ()) :
    checkKey "document_key" c.documentKey = .ok () ∧ checkKey "history_key" c.historyKey = .ok () := by
  unfold check at h
  cases hd : checkKey "document_key" c.documentKey with
  | error e => simp [hd] at h; cases h
  | ok u =>
    cases hh : checkKey "history_key" c.historyKey with
    | error e => simp [hd, hh] at h; cases h
    | ok u' => exact ⟨rfl, rfl⟩

/-- The byte store takes the keys of a checked configuration exactly when they fit in 128
bytes and do not start with a dot: the two conditions the configuration does not check. -/
theorem validKey_of_check {c : Config} (h : c.check = .ok ()) :
    Blob.validKey c.documentKey = (decide (c.documentKey.utf8ByteSize ≤ 128) && !c.documentKey.startsWith ".") ∧
      Blob.validKey c.historyKey = (decide (c.historyKey.utf8ByteSize ≤ 128) && !c.historyKey.startsWith ".") := by
  obtain ⟨hd, hh⟩ := check_ok_keys h
  exact ⟨validKey_of_checkKey hd, validKey_of_checkKey hh⟩

end Config

end DocStore
