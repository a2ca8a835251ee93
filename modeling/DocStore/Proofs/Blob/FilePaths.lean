import DocStore.Blob.File
import DocStore.Proofs.Fs.Nodes
import DocStore.Proofs.Time.Text
/-
  DocStore.Proofs.Blob.FilePaths — the paths a file store names, read back as nodes.

  A store joins a directory's text and a name with one slash; read back, that is the
  directory's path with the name added (`at_joinText`), for any plain name, and the name is
  what a write takes for the last name of the path (`lastName_joinText`). The names a
  store joins are all plain: a key and its file `KEY.bin` (`PlainName.of_validKey`,
  `PlainName.bin`), a temporary file `.NAME.tmp` (`PlainName.temp`), a backup's name
  (`PlainName.backupName`) and the manifest's. An entry of the data directory stands for
  a key exactly when it is that key's file (`keyOfEntry_eq_some_iff`); a temporary file
  and the manifest never do.
-/

namespace DocStore

/-! ## Plain names -/

namespace PlainName

/-- A name of several characters, none of them a slash, is plain. -/
theorem of_length {x : String} (hl : 3 ≤ x.toList.length) (hs : '/' ∉ x.toList) : PlainName x := by
  refine ⟨?_, hs, ?_, ?_⟩ <;> rintro rfl <;> simp at hl

theorem of_validKey {k : String} (hk : Blob.validKey k = true) : PlainName k := by
  simp only [Blob.validKey, Bool.and_eq_true, Bool.not_eq_true', decide_eq_true_eq, List.all_eq_true] at hk
  obtain ⟨⟨⟨hne, -⟩, hdot⟩, hchars⟩ := hk
  refine ⟨?_, fun hs => by simpa [Blob.isKeyChar] using hchars '/' hs, ?_, ?_⟩
  · rintro rfl
    simp at hne
  · rintro rfl
    simp at hdot
  · rintro rfl
    simp at hdot

theorem bin {k : String} (hk : PlainName k) : PlainName (k ++ ".bin") := by
  refine of_length ?_ ?_
  · simp
  · simp [hk.no_slash]

theorem temp {x : String} (hx : PlainName x) : PlainName ("." ++ x ++ ".tmp") := by
  refine of_length ?_ ?_
  · simp
  · simp [hx.no_slash]

theorem manifest : PlainName FileBlobs.manifestName :=
  of_length (by decide) (by decide)

theorem backupName (now : Instant) (seq : Nat) : PlainName (Blob.backupName now seq) := by
  have hpad : ∀ w n, '/' ∉ (Instant.pad w n).toList := fun w n h => by
    simpa using Instant.isDigit_of_mem_pad h
  have hyear : ∀ y, '/' ∉ (Instant.yearText y).toList := by
    intro y
    unfold Instant.yearText
    split
    · exact hpad 4 _
    · split <;> simp [hpad]
  refine of_length ?_ ?_
  · simp only [Blob.backupName, String.toList_append, List.length_append]
    simp
    omega
  · simp [Blob.backupName, Instant.stampText, hpad, hyear]

end PlainName

/-! ## Joined paths -/

namespace FileBlobs

theorem toList_joinText (base x : String) : (joinText base x).toList =
    (if base.toList.getLast? = some '/' then base.toList.dropLast else base.toList) ++ '/' :: x.toList := by
  unfold joinText
  by_cases h : base.toList.getLast? = some '/'
  · obtain ⟨ys, hys⟩ := List.getLast?_eq_some_iff.1 h
    simp [hys]
  · simp [h]

/-- The names of a path that goes on by a slash and a plain name. -/
theorem names_slash_append (l : List Char) {x : String} (hx : PlainName x) :
    (((l ++ '/' :: x.toList).splitOn '/').map String.ofList).filter (· != "") =
      ((l.splitOn '/').map String.ofList).filter (· != "") ++ [x] := by
  rw [List.splitOn_append_cons_self, List.splitOn_eq_singleton hx.no_slash]
  simp [hx.ne_empty]

/-- A slash at the end of a directory's text adds no name. -/
theorem names_slash_end (l : List Char) :
    (((l ++ ['/']).splitOn '/').map String.ofList).filter (· != "") =
      ((l.splitOn '/').map String.ofList).filter (· != "") := by
  rw [List.splitOn_append_cons_self]
  simp

/-- A directory's text joined with a plain name is the directory's path and the name. -/
theorem at_joinText (base : String) {x : String} (hx : PlainName x) :
    at_ (joinText base x) = ⟨(at_ base).names ++ [x], false⟩ := by
  have hx0 : x.toList ≠ [] := by simpa using hx.ne_empty
  simp only [at_, PathName.ofText, toList_joinText]
  congr 1
  · rw [names_slash_append _ hx]
    split
    · rename_i h
      obtain ⟨ys, hys⟩ := List.getLast?_eq_some_iff.1 h
      rw [hys, List.dropLast_concat, names_slash_end]
    · rfl
  · -- the text ends with the name, which holds no slash
    obtain ⟨c, hc⟩ := Option.ne_none_iff_exists'.1 (List.getLast?_eq_none_iff.not.2 hx0)
    have hcx : c ≠ '/' := fun e => hx.no_slash (e ▸ List.mem_of_getLast? hc)
    have hend : ∀ l : List Char, (l ++ '/' :: x.toList).getLast? = some c := fun l => by
      rw [show l ++ '/' :: x.toList = (l ++ ['/']) ++ x.toList by simp, List.getLast?_append, hc]
      rfl
    simp only [hend]
    simp [hcx]

/-- A write names its temporary file after the last name of the target's text. -/
theorem lastName_joinText (base : String) {x : String} (hx : PlainName x) :
    ((((joinText base x).toList.splitOn '/').map String.ofList).getLast?).getD "blob" = x := by
  rw [toList_joinText, List.splitOn_append_cons_self, List.splitOn_eq_singleton hx.no_slash]
  simp

/-! ## The keys of the data directory -/

theorem keyOfEntry_bin {k : String} (hk : Blob.validKey k = true) : keyOfEntry (k ++ ".bin") = some k := by
  have hsplit : (k ++ ".bin").toList.splitOn '.' = k.toList.splitOn '.' ++ [['b', 'i', 'n']] := by
    have hbin : (['b', 'i', 'n'] : List Char).splitOn '.' = [['b', 'i', 'n']] := by decide
    rw [String.toList_append, show (".bin" : String).toList = ['.', 'b', 'i', 'n'] by rfl,
      List.splitOn_append_cons_self, hbin]
  have hne : k.toList.splitOn '.' ≠ [] := List.splitOn_ne_nil _ _
  have hstem : ".".intercalate ((k.toList.splitOn '.').map String.ofList) = k := by
    apply String.toList_injective
    simp [Function.comp_def]
  have hk0 : k.isEmpty = false := by
    simpa [String.isEmpty_iff] using (PlainName.of_validKey hk).ne_empty
  unfold keyOfEntry
  simp only [hsplit, List.map_append, List.map_cons, List.map_nil, List.length_append, List.length_map,
    List.length_singleton, List.dropLast_concat, hstem, hk0, List.getLast?_concat, hk]
  have hlen : ¬ (k.toList.splitOn '.').length + 1 < 2 := by
    have := List.length_pos_iff.2 hne
    omega
  simp [hlen]

theorem keyOfEntry_eq_some_iff {e k : String} :
    keyOfEntry e = some k ↔ Blob.validKey k = true ∧ e = k ++ ".bin" := by
  constructor
  · intro h
    unfold keyOfEntry at h
    dsimp only at h
    split at h
    · cases h
    · rename_i hlen
      split at h
      · cases h
      · rename_i hstem
        split at h
        · rename_i hv
          obtain rfl := Option.some.inj h
          refine ⟨hv, ?_⟩
          -- the entry is its parts joined by dots, and the last part is `bin`
          have hlast : ((e.toList.splitOn '.').map String.ofList).getLast? = some "bin" := by
            exact not_not.1 (not_or.1 (by simpa only [Bool.or_eq_true, bne_iff_ne, ne_eq] using hstem)).2
          obtain ⟨front, hfront⟩ := List.getLast?_eq_some_iff.1 hlast
          have hjoin : ".".intercalate ((e.toList.splitOn '.').map String.ofList) = e := by
            apply String.toList_injective
            simp [Function.comp_def]
          have hfront0 : front ≠ [] := by
            rintro rfl
            simp [hfront] at hlen
          rw [hfront, List.dropLast_concat]
          calc e = ".".intercalate (front ++ ["bin"]) := by rw [← hfront, hjoin]
            _ = ".".intercalate front ++ "." ++ "bin" := by
              rw [String.intercalate_append_of_ne_nil hfront0 (by simp), String.intercalate_singleton]
            _ = ".".intercalate front ++ ".bin" := by rw [String.append_assoc]; rfl
        · cases h
  · rintro ⟨hk, rfl⟩
    exact keyOfEntry_bin hk

end FileBlobs

end DocStore
