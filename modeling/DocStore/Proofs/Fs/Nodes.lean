import Mathlib.Data.List.Nodup
import DocStore.Fs.Tree
/-
  DocStore.Proofs.Fs.Nodes — what each operation on a directory tree does, path by path.

  (1) A tree is read through `node?`, the node at a path, and each way of changing it is
  described by `node?` after it: putting a node changes one path, erasing forgets one path
  or everything under one, and moving puts at each path under the destination what stood at
  the same place under the source, forgetting what stood under either before
  (`node?_move`). None of this needs a path to be listed once; that the paths stay
  distinct when they were is proved beside each (`Distinct`).

  (2) On a path made of plain names (`PlainName`: no slash, neither `.` nor `..`) whose
  every directory exists (`DirsTo`), a walk goes straight down, and each operation comes
  down to the node at the path: `stat_entry`, `write_entry`, `createDirAll_entry`,
  `removeFile_file`, `removeDirAll_dir`, `rename_file`, and `readDir_dirsTo`, whose
  listing holds the last names of the paths one below, each once (`mem_childNames`,
  `nodup_childNames`).
-/

namespace DocStore

/-- A name a directory can hold: not empty, without a slash, and neither `.` nor `..`. -/
structure PlainName (x : String) : Prop where
  ne_empty : x ≠ ""
  no_slash : '/' ∉ x.toList
  ne_dot : x ≠ "."
  ne_dotdot : x ≠ ".."

namespace FileTree

variable {t : FileTree} {p q src dst : FsPath} {x y : String} {n : Node}

/-! ## The node at a path -/

theorem lookup_cons_ite {r : FsPath} {m : Node} {l : List (FsPath × Node)} :
    ((r, m) :: l).lookup q = if q = r then some m else l.lookup q := by
  rw [List.lookup_cons]
  by_cases h : q = r
  · simp [h]
  · rw [beq_false_of_ne h, if_neg h]

theorem isPrefixOf_eq_false (h : ¬ p <+: q) : p.isPrefixOf q = false :=
  Bool.eq_false_iff.2 fun h' => h (List.isPrefixOf_iff_prefix.1 h')

theorem lookup_filter_key (f : FsPath → Bool) (l : List (FsPath × Node)) :
    (l.filter fun e => f e.1).lookup q = if f q then l.lookup q else none := by
  induction l with
  | nil => simp
  | cons e l ih =>
    obtain ⟨r, m⟩ := e
    by_cases hr : q = r
    · subst hr
      cases hf : f q <;> simp [hf, ih]
    · cases hf : f r <;> simp [lookup_cons_ite, hf, hr, ih]

@[simp] theorem node?_setNode : (t.setNode p n).node? q = if q = p then some n else t.node? q := by
  unfold setNode node?
  rw [List.lookup_append, lookup_filter_key (· != p), lookup_cons_ite, List.lookup_nil]
  by_cases h : q = p <;> simp [h]

@[simp] theorem node?_erase : (t.erase p).node? q = if q = p then none else t.node? q := by
  unfold erase node?
  rw [lookup_filter_key (· != p)]
  by_cases h : q = p <;> simp [h]

@[simp] theorem node?_eraseUnder : (t.eraseUnder p).node? q = if p <+: q then none else t.node? q := by
  show (t.nodes.filter fun e => !(p.isPrefixOf e.1)).lookup q = _
  rw [lookup_filter_key (fun r => !(p.isPrefixOf r))]
  by_cases h : p <+: q
  · simp [h, List.isPrefixOf_iff_prefix.2 h]
  · simp [h, isPrefixOf_eq_false h, node?]

/-- Forgetting a path that holds nothing changes nothing. -/
theorem erase_of_none (h : t.node? p = none) : t.erase p = t := by
  unfold erase
  congr 1
  refine List.filter_eq_self.2 fun e he => ?_
  have hne := List.lookup_eq_none_iff.1 h e he
  show (e.1 != p) = true
  rw [bne_iff_ne] at hne ⊢
  exact Ne.symm hne

/-- The tree with a directory at `p`: as it was when one is there. -/
def withDir (t : FileTree) (p : FsPath) : FileTree := if t.node? p = some .dir then t else t.setNode p .dir

@[simp] theorem node?_withDir : (t.withDir p).node? q = if q = p then some .dir else t.node? q := by
  unfold withDir
  split
  · rename_i h
    by_cases hq : q = p
    · simp [hq, h]
    · simp [hq]
  · simp

/-- A path under `dst` is what `src` continued by the same names becomes. -/
theorem moved_eq_iff {r : FsPath} (hr : src <+: r) :
    q = dst ++ r.drop src.length ↔ dst <+: q ∧ src ++ q.drop dst.length = r := by
  obtain ⟨u, rfl⟩ := hr
  constructor
  · rintro rfl
    simp
  · rintro ⟨⟨v, rfl⟩, h⟩
    simp only [List.drop_left] at h ⊢
    rw [List.append_cancel_left h]

/-- The moved nodes, looked up: what stood at the same place under the source. -/
theorem lookup_moved (l : List (FsPath × Node)) :
    (l.filterMap fun (r, m) => if src.isPrefixOf r then some (dst ++ r.drop src.length, m) else none).lookup q =
      if dst <+: q then l.lookup (src ++ q.drop dst.length) else none := by
  induction l with
  | nil => split <;> simp
  | cons e l ih =>
    obtain ⟨r, m⟩ := e
    rw [List.filterMap_cons]
    by_cases hr : src <+: r
    · -- an entry under `src` lands under `dst`, at the place `moved_eq_iff` names
      simp only [List.isPrefixOf_iff_prefix.2 hr, if_true, lookup_cons_ite, ih, moved_eq_iff hr]
      by_cases hq : dst <+: q
      · by_cases he : src ++ q.drop dst.length = r <;> simp [hq, he]
      · simp [hq]
    · -- an entry elsewhere is dropped, and is not what any path under `dst` looks up
      simp only [isPrefixOf_eq_false hr, Bool.false_eq_true, if_false, ih]
      by_cases hq : dst <+: q
      · have hne : src ++ q.drop dst.length ≠ r := fun h => hr (h ▸ List.prefix_append src _)
        simp [hq, lookup_cons_ite, hne]
      · simp [hq]

/-- A move puts under `dst` what stood under `src`, and forgets what stood under either. -/
@[simp] theorem node?_move : (t.move src dst).node? q =
    if dst <+: q then t.node? (src ++ q.drop dst.length) else if src <+: q then none else t.node? q := by
  show ((t.nodes.filter fun e => !(src.isPrefixOf e.1) && !(dst.isPrefixOf e.1)) ++ _).lookup q = _
  rw [List.lookup_append, lookup_filter_key (fun r => !(src.isPrefixOf r) && !(dst.isPrefixOf r)),
    lookup_moved]
  by_cases hd : dst <+: q
  · simp [hd, List.isPrefixOf_iff_prefix.2 hd, node?]
  · by_cases hs : src <+: q
    · simp [hd, hs, List.isPrefixOf_iff_prefix.2 hs]
    · simp [hd, hs, isPrefixOf_eq_false hd, isPrefixOf_eq_false hs, node?]

/-- Nothing stands under `p`. -/
def Leaf (t : FileTree) (p : FsPath) : Prop := ∀ r, r ≠ [] → t.node? (p ++ r) = none

/-- A node put at `tmp` and moved onto `dst`, where nothing stands under either, ends at
`dst`; `tmp` is gone and every other path is as it was. -/
theorem node?_moveFresh {tmp : FsPath} {m : Node} (hl : t.Leaf tmp) (hl' : t.Leaf dst) (hd : ¬ dst <+: tmp) :
    ((t.setNode tmp m).move tmp dst).node? q = if q = dst then some m else if q = tmp then none else t.node? q := by
  rw [node?_move]
  by_cases hq : dst <+: q
  · -- at or under `dst`: what stood at the same place under `tmp`
    obtain ⟨r, rfl⟩ := hq
    rw [if_pos (List.prefix_append dst r), List.drop_left, node?_setNode]
    by_cases hr : r = []
    · simp [hr]
    · have h1 : dst ++ r ≠ dst := by simpa using hr
      have h2 : dst ++ r ≠ tmp := fun h => hd (h ▸ List.prefix_append dst r)
      have h3 : tmp ++ r ≠ tmp := by simpa using hr
      simp [h1, h2, h3, hl r hr, hl' r hr]
  · have h1 : q ≠ dst := fun h => hq (h ▸ List.prefix_refl _)
    rw [if_neg hq, if_neg h1]
    by_cases hs : tmp <+: q
    · -- at or under `tmp`: forgotten
      obtain ⟨r, rfl⟩ := hs
      rw [if_pos (List.prefix_append tmp r)]
      by_cases hr : r = []
      · simp [hr]
      · have h3 : tmp ++ r ≠ tmp := by simpa using hr
        simp [h3, hl r hr]
    · have h2 : q ≠ tmp := fun h => hs (h ▸ List.prefix_refl _)
      simp [hs, h2]

/-! ## Paths listed once -/

/-- No path is listed twice. -/
def Distinct (t : FileTree) : Prop := (t.nodes.map (·.1)).Nodup

theorem Distinct.erase (h : t.Distinct) : (t.erase p).Distinct :=
  h.sublist ((List.filter_sublist).map _)

theorem Distinct.eraseUnder (h : t.Distinct) : (t.eraseUnder p).Distinct :=
  h.sublist ((List.filter_sublist).map _)

theorem Distinct.setNode (h : t.Distinct) : (t.setNode p n).Distinct := by
  unfold Distinct FileTree.setNode
  rw [List.map_append, List.nodup_append]
  refine ⟨h.sublist ((List.filter_sublist).map _), by simp, ?_⟩
  -- the kept paths are all other than `p`
  intro a ha b hb
  simp only [List.mem_map, List.mem_filter] at ha
  obtain ⟨⟨r, m⟩, ⟨-, hr⟩, rfl⟩ := ha
  simp only [List.map_cons, List.map_nil, List.mem_singleton] at hb
  subst hb
  simpa using hr

/-- The paths of the moved nodes: those under `src`, carried to `dst`. -/
theorem map_moved (l : List (FsPath × Node)) :
    (l.filterMap fun (r, m) => if src.isPrefixOf r then some (dst ++ r.drop src.length, m) else none).map (·.1) =
      (l.map (·.1)).filterMap fun r => if src.isPrefixOf r then some (dst ++ r.drop src.length) else none := by
  rw [List.map_filterMap, List.filterMap_map]
  congr 1
  funext e
  obtain ⟨r, m⟩ := e
  cases h : src.isPrefixOf r <;>
    simp only [h, Function.comp, Bool.false_eq_true, ↓reduceIte, Option.map_some, Option.map_none]

theorem Distinct.move (h : t.Distinct) : (t.move src dst).Distinct := by
  unfold Distinct FileTree.move
  dsimp only
  rw [List.map_append, List.nodup_append, map_moved]
  refine ⟨h.sublist ((List.filter_sublist).map _), ?_, ?_⟩
  · -- a moved path tells where it came from
    refine h.filterMap fun a a' b ha ha' => ?_
    simp only [Option.mem_def, Option.ite_none_right_eq_some, Option.some.injEq] at ha ha'
    obtain ⟨ha, rfl⟩ := ha
    obtain ⟨ha', hb⟩ := ha'
    obtain ⟨u, rfl⟩ := List.isPrefixOf_iff_prefix.1 ha
    obtain ⟨u', rfl⟩ := List.isPrefixOf_iff_prefix.1 ha'
    simp only [List.drop_left, List.append_cancel_left_eq] at hb
    rw [hb]
  · -- a kept path is not under `dst`, a moved one is
    intro a ha b hb
    simp only [List.mem_map, List.mem_filter, Bool.and_eq_true, Bool.not_eq_true'] at ha
    obtain ⟨⟨r, m⟩, ⟨-, -, hd⟩, rfl⟩ := ha
    simp only [List.mem_filterMap, Option.ite_none_right_eq_some, Option.some.injEq] at hb
    obtain ⟨r', -, -, rfl⟩ := hb
    intro he
    have hpre : dst <+: r := by
      rw [show r = _ from he]
      exact List.prefix_append _ _
    simp [List.isPrefixOf_iff_prefix.2 hpre] at hd

theorem Distinct.withDir (h : t.Distinct) : (t.withDir p).Distinct := by
  unfold FileTree.withDir
  split
  · exact h
  · exact h.setNode

/-! ## The names one below a path -/

theorem childName_eq_some {r : FsPath} :
    (if r.length == p.length + 1 && p.isPrefixOf r then r.getLast? else none) = some x ↔ r = p ++ [x] := by
  constructor
  · intro h
    simp only [Option.ite_none_right_eq_some, Bool.and_eq_true, beq_iff_eq, List.isPrefixOf_iff_prefix] at h
    obtain ⟨⟨hl, u, rfl⟩, hlast⟩ := h
    -- one name follows `p`, and it is the last one
    obtain ⟨y, rfl⟩ : ∃ y, u = [y] := List.length_eq_one_iff.1 (by simpa using hl)
    simp only [List.getLast?_append, List.getLast?_singleton, Option.some_or, Option.some.injEq] at hlast
    rw [hlast]
  · rintro rfl
    simp

theorem childNames_eq : t.childNames p = (t.nodes.map (·.1)).filterMap fun r =>
    if r.length == p.length + 1 && p.isPrefixOf r then r.getLast? else none := by
  rw [childNames, List.filterMap_map]
  rfl

theorem mem_childNames : x ∈ t.childNames p ↔ t.node? (p ++ [x]) ≠ none := by
  rw [childNames_eq, List.mem_filterMap, node?, ne_eq, List.lookup_eq_none_iff]
  simp only [childName_eq_some, List.mem_map, bne_iff_ne, ne_eq, not_forall, not_not]
  -- both sides say that some node sits at `p ++ [x]`
  constructor
  · rintro ⟨r, ⟨e, he, rfl⟩, hr⟩
    exact ⟨e, he, hr.symm⟩
  · rintro ⟨e, he, hq⟩
    exact ⟨e.1, ⟨e, he, rfl⟩, hq.symm⟩

theorem nodup_childNames (h : t.Distinct) : (t.childNames p).Nodup := by
  rw [childNames_eq]
  refine h.filterMap fun a a' b ha ha' => ?_
  rw [Option.mem_def, childName_eq_some] at ha ha'
  rw [ha, ha']

/-! ## Walking down plain names -/

/-- Every directory from the root down to `p`, `p` itself included, exists. -/
def DirsTo (t : FileTree) (p : FsPath) : Prop := ∀ q, q <+: p → q ≠ [] → t.node? q = some .dir

/-- Walking plain names through existing directories goes down one directory a name. -/
theorem walk_append (here : FsPath) {ns : List String} (rest : List String) (hn : ∀ y ∈ ns, PlainName y)
    (hd : ∀ q, q <+: ns → q ≠ [] → t.node? (here ++ q) = some .dir) :
    t.walk here (ns ++ rest) = t.walk (here ++ ns) rest := by
  induction ns generalizing here with
  | nil => simp
  | cons y ns ih =>
    have hy := hn y List.mem_cons_self
    have hdir : t.node? (here ++ [y]) = some .dir := hd [y] (by simp) (by simp)
    have hrest := ih (here ++ [y]) (fun z hz => hn z (List.mem_cons_of_mem y hz))
      (fun q hq hq0 => by simpa using hd (y :: q) (List.cons_prefix_cons.2 ⟨rfl, hq⟩) (by simp))
    rw [List.cons_append, walk, if_neg (by simpa using hy.ne_dot), if_neg (by simpa using hy.ne_dotdot), hdir]
    simpa using hrest

/-- One more name: a directory is walked into, anything else stops the walk. -/
theorem walk_one (here : FsPath) (hy : PlainName y) : t.walk here [y] = match t.node? (here ++ [y]) with
    | some .dir => .ok (here ++ [y])
    | some (.file _) => .error .notDirectory
    | none => .error .notFound := by
  rw [walk, if_neg (by simpa using hy.ne_dot), if_neg (by simpa using hy.ne_dotdot)]
  cases t.node? (here ++ [y]) with
  | none => rfl
  | some m => cases m <;> rfl

variable (hp : ∀ y ∈ p, PlainName y) (hd : t.DirsTo p) (hx : PlainName x)
include hp hd

theorem walk_dirsTo : t.walk [] p = .ok p := by
  have h := walk_append [] [] hp fun q hq hq0 => by simpa using hd q hq hq0
  rw [List.append_nil, List.nil_append] at h
  rw [h, walk]
  rfl

include hx in
theorem target_entry (ts : Bool) : t.target ⟨p ++ [x], ts⟩ = .ok (.entry p x) := by
  have hdot : (x == ".") = false := beq_false_of_ne hx.ne_dot
  have hdotdot : (x == "..") = false := beq_false_of_ne hx.ne_dotdot
  simp [target, walk_dirsTo hp hd, hdot, hdotdot, bind, Except.bind, pure, Except.pure]

include hx in
theorem stat_entry : t.stat ⟨p ++ [x], false⟩ = match t.node? (p ++ [x]) with
    | none => .error .notFound
    | some m => .ok (p ++ [x], m) := by
  simp only [stat, target_entry hp hd hx, bind, Except.bind]
  cases h : t.node? (p ++ [x]) with
  | none => rfl
  | some m => cases m <;> rfl

include hx in
theorem isDir_entry : t.isDir ⟨p ++ [x], false⟩ = true ↔ t.node? (p ++ [x]) = some .dir := by
  rw [isDir, stat_entry hp hd hx]
  cases t.node? (p ++ [x]) with
  | none => simp
  | some m => cases m <;> simp

theorem stat_dirsTo {P : PathName} (hP : P.names = p) (hne : p ≠ []) : t.stat P = .ok (p, .dir) := by
  obtain ⟨names, ts⟩ := P
  dsimp only at hP
  subst names
  -- the directory is the entry of its last name in the directory above
  have hsplit := List.dropLast_append_getLast hne
  have hlast : PlainName (p.getLast hne) := hp _ (List.getLast_mem hne)
  have hup : ∀ y ∈ p.dropLast, PlainName y := fun y hy => hp y ((List.dropLast_prefix p).subset hy)
  have hdup : t.DirsTo p.dropLast := fun q hq hq0 => hd q (hq.trans (List.dropLast_prefix p)) hq0
  have hself : t.node? p = some .dir := hd p (List.prefix_refl p) hne
  unfold stat
  rw [← hsplit, target_entry hup hdup hlast]
  simp only [bind, Except.bind, hsplit, hself, pure, Except.pure]

include hx in
/-- A file one directory below a plain path: the directory is there and the file is in it. -/
theorem isFile_below (hy : PlainName y) :
    t.isFile ⟨p ++ [x, y], false⟩ = true ↔
      t.node? (p ++ [x]) = some .dir ∧ ∃ c, t.node? (p ++ [x, y]) = some (.file c) := by
  have hsplit : p ++ [x, y] = (p ++ [x]) ++ [y] := by simp
  by_cases hdir : t.node? (p ++ [x]) = some .dir
  · have hd' : t.DirsTo (p ++ [x]) := fun q hq hq0 => by
      rcases List.prefix_concat_iff.1 hq with rfl | hq
      · exact hdir
      · exact hd q hq hq0
    have hp' : ∀ z ∈ p ++ [x], PlainName z := by
      intro z hz
      rcases List.mem_append.1 hz with hz | hz
      · exact hp z hz
      · rw [List.mem_singleton.1 hz]
        exact hx
    rw [hsplit, isFile, stat_entry hp' hd' hy]
    cases t.node? (p ++ [x] ++ [y]) with
    | none => simp [hdir]
    | some m => cases m <;> simp [hdir]
  · -- the walk stops at `x`, and so does everything that looks below it
    have hw : t.walk [] (p ++ [x]) = t.walk p [x] := by
      simpa using walk_append [] [x] hp (fun q hq hq0 => by simpa using hd q hq hq0)
    obtain ⟨e, he⟩ : ∃ e, t.walk [] (p ++ [x]) = .error e := by
      rw [hw, walk_one p hx]
      cases h : t.node? (p ++ [x]) with
      | none => exact ⟨_, rfl⟩
      | some m =>
        cases m with
        | file c => exact ⟨_, rfl⟩
        | dir => exact absurd h hdir
    have htarget : t.target ⟨p ++ [x, y], false⟩ = .error e := by
      simp only [target, hsplit, List.getLast?_concat, List.dropLast_concat, he]
      rfl
    simp only [isFile, stat, htarget, hdir, false_and, iff_false]
    simp [bind, Except.bind]

/-! ## Operations on a plain path -/

include hx in
theorem read_entry : t.read ⟨p ++ [x], false⟩ = match t.node? (p ++ [x]) with
    | some (.file c) => .ok c
    | some .dir => .error .isDirectory
    | none => .error .notFound := by
  simp only [read, stat_entry hp hd hx, bind, Except.bind]
  cases h : t.node? (p ++ [x]) with
  | none => rfl
  | some m => cases m <;> rfl

include hx in
theorem write_entry (h : t.node? (p ++ [x]) ≠ some .dir) (c : String) :
    t.write ⟨p ++ [x], false⟩ c = .ok (t.setNode (p ++ [x]) (.file c)) := by
  simp only [write, target_entry hp hd hx, bind, Except.bind]
  cases hn : t.node? (p ++ [x]) with
  | none => rfl
  | some m =>
    cases m with
    | file c' => rfl
    | dir => exact absurd hn h

include hx in
theorem createDirAll_entry (h : ∀ c, t.node? (p ++ [x]) ≠ some (.file c)) :
    t.createDirAll ⟨p ++ [x], false⟩ = .ok (t.withDir (p ++ [x])) := by
  rw [createDirAll]
  cases hn : t.node? (p ++ [x]) with
  | none =>
    have hmk : t.createDir ⟨p ++ [x], false⟩ = .ok (t.setNode (p ++ [x]) .dir) := by
      simp only [createDir, target_entry hp hd hx, bind, Except.bind, hn]
      rfl
    simp [hmk, hn, withDir, pure, Except.pure]
  | some m =>
    have hmk : t.createDir ⟨p ++ [x], false⟩ = .error .alreadyExists := by
      simp only [createDir, target_entry hp hd hx, bind, Except.bind, hn]
      rfl
    cases m with
    | file c => exact absurd hn (h c)
    | dir =>
      -- the directory is there already, which counts as made
      have hdir : t.isDir ⟨p ++ [x], false⟩ = true := by
        simp [isDir, stat_entry hp hd hx, hn]
      simp [hmk, hn, hdir, withDir, pure, Except.pure]

include hx in
theorem removeFile_file {c : String} (h : t.node? (p ++ [x]) = some (.file c)) :
    t.removeFile ⟨p ++ [x], false⟩ = .ok (t.erase (p ++ [x])) := by
  simp only [removeFile, target_entry hp hd hx, bind, Except.bind, h]
  rfl

include hx in
theorem removeFile_missing (h : t.node? (p ++ [x]) = none) :
    t.removeFile ⟨p ++ [x], false⟩ = .error .notFound := by
  simp only [removeFile, target_entry hp hd hx, bind, Except.bind, h]
  rfl

include hx in
theorem removeDirAll_dir (h : t.node? (p ++ [x]) = some .dir) :
    t.removeDirAll ⟨p ++ [x], false⟩ = .ok (t.eraseUnder (p ++ [x])) := by
  simp only [removeDirAll, stat_entry hp hd hx, bind, Except.bind, h]
  rfl

theorem readDir_dirsTo {P : PathName} (hP : P.names = p) (hne : p ≠ []) :
    t.readDir P = .ok ((t.childNames p).mergeSort fun a b => decide (a ≤ b)) := by
  simp only [readDir, stat_dirsTo hp hd hP hne, bind, Except.bind]
  rfl

include hx in
/-- Renaming a file onto a plain path that is not a directory moves it there. -/
theorem rename_file {p' : FsPath} {y c : String} (hp' : ∀ z ∈ p', PlainName z) (hd' : t.DirsTo p')
    (hy : PlainName y) (hs : t.node? (p ++ [x]) = some (.file c)) (hdst : t.node? (p' ++ [y]) ≠ some .dir)
    (hne : p ++ [x] ≠ p' ++ [y]) :
    t.rename ⟨p ++ [x], false⟩ ⟨p' ++ [y], false⟩ = .ok (t.move (p ++ [x]) (p' ++ [y])) := by
  simp only [rename, stat_entry hp hd hx, hs, target_entry hp' hd' hy, bind, Except.bind]
  cases hn : t.node? (p' ++ [y]) with
  | none => simp [hn, beq_false_of_ne hne, pure, Except.pure]
  | some m =>
    cases m with
    | file c' => simp [hn, beq_false_of_ne hne, pure, Except.pure]
    | dir => exact absurd hn hdst

end FileTree

end DocStore
