import Mathlib.Data.List.Chain
import Mathlib.Data.List.TakeWhile
import DocStore.Proofs.Validation.WellFormed
import DocStore.Repo.Message
/-
  DocStore.Proofs.Repo.Edits — the list edits the repositories make, one spec each.

  A change replaces the first entity with an id (`replaceFirst`), puts a message list
  under its key (`putKey`), moves a project's last activity (`updateFirst`), or inserts a
  message into its list in timestamp order and drops the oldest beyond the limit
  (`insertBounded`). Each lemma here says all that such an edit does, so the lemmas on
  documents never unfold the edit again:
  (1) `replaceFirst_eq_some`: the list is cut at the first entry with the key;
  (2) `putKey_cases`: the new list is put in the place of the first entry with its key, or
      inserted before any entry with that key;
  (3) `conversation_insertBounded`: inserting keeps a message list in time order, within
      its limit, and its ids distinct as long as the new id is not there twice.
-/

namespace DocStore

/-! ## Time order -/

namespace Instant

theorem le_iff (a b : Instant) : a ≤ b ↔ a.sec < b.sec ∨ a.sec = b.sec ∧ a.nano ≤ b.nano := by
  show before b a = false ↔ _
  simp only [before, Bool.or_eq_false_iff, decide_eq_false_iff_not, Bool.and_eq_false_iff, beq_eq_false_iff_ne]
  omega

theorem le_trans {a b c : Instant} (h₁ : a ≤ b) (h₂ : b ≤ c) : a ≤ c := by
  rw [le_iff] at *
  omega

theorem le_of_not_le {a b : Instant} (h : ¬ a ≤ b) : b ≤ a := by
  rw [le_iff] at *
  omega

end Instant

/-- Messages in non-decreasing timestamp order are ordered pairwise, since time order is
transitive. -/
theorem timeOrder_pairwise {ms : List Message} :
    ms.IsChain (fun a b : Message => a.timestamp ≤ b.timestamp) ↔
      ms.Pairwise fun a b : Message => a.timestamp ≤ b.timestamp :=
  haveI : Trans (fun a b : Message => a.timestamp ≤ b.timestamp) (fun a b : Message => a.timestamp ≤ b.timestamp)
      (fun a b : Message => a.timestamp ≤ b.timestamp) := ⟨Instant.le_trans⟩
  List.isChain_iff_pairwise

namespace Conversation

theorem nil : Conversation [] := ⟨by simp, by simp, by simp [maxMessagesPerProject], by simp⟩

/-- Any part of a message list, kept in order, is a message list too. -/
theorem sublist {ms ms' : List Message} (h : Conversation ms) (hs : List.Sublist ms' ms) : Conversation ms' :=
  ⟨fun m hm => h.valid m (hs.subset hm), h.ids.sublist (hs.map _), le_trans hs.length_le h.size,
    timeOrder_pairwise.2 ((timeOrder_pairwise.1 h.ordered).sublist hs)⟩

end Conversation

namespace Repo

/-! ## Replacing the first entry with a key -/

theorem replaceFirst_eq_some {key : ε → String} {x old : ε} {xs ys : List ε}
    (h : replaceFirst key x xs = some (old, ys)) :
    ∃ pre post, xs = pre ++ old :: post ∧ ys = pre ++ x :: post ∧ key old = key x ∧
      ∀ y ∈ pre, key y ≠ key x := by
  induction xs generalizing ys with
  | nil => simp [replaceFirst] at h
  | cons y xs ih =>
    rw [replaceFirst] at h
    split at h
    · rename_i hk
      cases h
      exact ⟨[], xs, rfl, rfl, by simpa using hk, by simp⟩
    · rename_i hk
      obtain ⟨⟨o, rest⟩, hr, he⟩ := Option.map_eq_some_iff.1 h
      cases he
      obtain ⟨pre, post, rfl, rfl, hko, hpre⟩ := ih hr
      refine ⟨y :: pre, post, rfl, rfl, hko, ?_⟩
      simp only [List.mem_cons, forall_eq_or_imp]
      exact ⟨by simpa using hk, hpre⟩

/-- Replacing keeps every key in its place. -/
theorem replaceFirst_map {key : ε → String} {x old : ε} {xs ys : List ε}
    (h : replaceFirst key x xs = some (old, ys)) : ys.map key = xs.map key := by
  obtain ⟨pre, post, rfl, rfl, hko, -⟩ := replaceFirst_eq_some h
  simp [hko]

/-- The entry `replaceFirst` takes out is the first with the key. -/
theorem find?_of_replaceFirst {key : ε → String} {x old : ε} {xs ys : List ε}
    (h : replaceFirst key x xs = some (old, ys)) : xs.find? (fun y => key y == key x) = some old := by
  obtain ⟨pre, post, rfl, -, hko, hpre⟩ := replaceFirst_eq_some h
  rw [List.find?_append, List.find?_eq_none.2 (fun y hy => by simpa using hpre y hy)]
  simp [hko]

/-! ## Message lists under their keys -/

theorem mem_putKey {k : String} {v : α} {xs : List (String × α)} {e : String × α} (h : e ∈ putKey k v xs) :
    e = (k, v) ∨ e ∈ xs := by
  induction xs with
  | nil => simpa [putKey] using h
  | cons y xs ih =>
    simp only [putKey] at h
    split at h
    · simpa using h
    · split at h
      · simp only [List.mem_cons] at h
        rcases h with h | h
        · exact .inl h
        · exact .inr (List.mem_cons_of_mem _ h)
      · simp only [List.mem_cons] at h
        rcases h with h | h
        · exact .inr (h ▸ List.mem_cons_self)
        · exact (ih h).imp_right (List.mem_cons_of_mem _)

/-- Putting a list under `k` either replaces the first entry with that key or inserts the
list before every entry with that key. -/
theorem putKey_cases (k : String) (v : α) (xs : List (String × α)) :
    ∃ pre post, (∀ e ∈ pre, e.1 ≠ k) ∧ putKey k v xs = pre ++ (k, v) :: post ∧
      (xs = pre ++ post ∨ ∃ w, xs = pre ++ (k, w) :: post) := by
  induction xs with
  | nil => exact ⟨[], [], by simp, rfl, .inl rfl⟩
  | cons y xs ih =>
    obtain ⟨k', w⟩ := y
    simp only [putKey]
    by_cases hlt : k < k'
    · exact ⟨[], (k', w) :: xs, by simp, by simp [hlt], .inl rfl⟩
    · by_cases heq : k = k'
      · subst heq
        exact ⟨[], xs, by simp, by simp, .inr ⟨w, rfl⟩⟩
      · obtain ⟨pre, post, hpre, hput, hxs⟩ := ih
        refine ⟨(k', w) :: pre, post, ?_, by simp [hlt, heq, hput], ?_⟩
        · simp only [List.mem_cons, forall_eq_or_imp]
          exact ⟨Ne.symm heq, hpre⟩
        · rcases hxs with rfl | ⟨w', rfl⟩
          · exact .inl rfl
          · exact .inr ⟨w', rfl⟩

/-- The list under `k` is the one in the first entry with that key. -/
theorem messagesAt_eq {d : Document} {pre post : List (String × List Message)} {w : List Message}
    (hd : d.messages = pre ++ (k, w) :: post) (hpre : ∀ e ∈ pre, e.1 ≠ k) : d.messagesAt k = w := by
  have hnone : pre.find? (fun e : String × List Message => e.1 == k) = none :=
    List.find?_eq_none.2 fun e he => by simpa using hpre e he
  simp [Document.messagesAt, hd, List.find?_append, hnone]

theorem mem_messagesAt {d : Document} {m : Message} (h : m ∈ d.messagesAt k) :
    ∃ e ∈ d.messages, e.1 = k ∧ m ∈ e.2 := by
  simp only [Document.messagesAt] at h
  cases hf : d.messages.find? (·.1 == k) with
  | none => simp [hf] at h
  | some e =>
    simp only [hf, Option.map_some, Option.getD_some] at h
    exact ⟨e, List.mem_of_find?_eq_some hf, by simpa using List.find?_some hf, h⟩

/-- Every list a document keeps is a message list, so the one under any key is too. -/
theorem conversation_messagesAt {d : Document} (h : ∀ e ∈ d.messages, Conversation e.2) (k : String) :
    Conversation (d.messagesAt k) := by
  simp only [Document.messagesAt]
  cases hf : d.messages.find? (·.1 == k) with
  | none => exact Conversation.nil
  | some e => exact h e (List.mem_of_find?_eq_some hf)

theorem sublist_flatMap_snd {xs : List (String × List Message)} {e : String × List Message} (he : e ∈ xs) :
    List.Sublist e.2 (xs.flatMap (·.2)) := by
  induction xs with
  | nil => simp at he
  | cons y ys ih =>
    rcases List.mem_cons.1 he with rfl | he
    · exact List.sublist_append_left _ _
    · exact (ih he).trans (List.sublist_append_right _ _)

/-- A list a document keeps is part of all its messages. -/
theorem sublist_allMessages {d : Document} {e : String × List Message} (he : e ∈ d.messages) :
    List.Sublist e.2 d.allMessages :=
  sublist_flatMap_snd he

/-! ## Moving a project's last activity -/

namespace Messages

theorem mem_updateFirst {id : String} {f : Project → Project} {ps : List Project} {q : Project}
    (h : q ∈ updateFirst id f ps) : q ∈ ps ∨ ∃ p ∈ ps, q = f p := by
  induction ps with
  | nil => simp [updateFirst] at h
  | cons p ps ih =>
    simp only [updateFirst] at h
    split at h
    · rcases List.mem_cons.1 h with rfl | h
      · exact .inr ⟨p, List.mem_cons_self, rfl⟩
      · exact .inl (List.mem_cons_of_mem _ h)
    · rcases List.mem_cons.1 h with rfl | h
      · exact .inl List.mem_cons_self
      · rcases ih h with h | ⟨p', hp', rfl⟩
        · exact .inl (List.mem_cons_of_mem _ h)
        · exact .inr ⟨p', List.mem_cons_of_mem _ hp', rfl⟩

/-- What `f` does not change, moving the activity does not change either. -/
theorem map_updateFirst {id : String} {f : Project → Project} (g : Project → β) (hg : ∀ p, g (f p) = g p)
    (ps : List Project) : (updateFirst id f ps).map g = ps.map g := by
  induction ps with
  | nil => rfl
  | cons p ps ih =>
    simp only [updateFirst]
    split <;> simp [hg, ih]

/-! ## Inserting a message in time order -/

theorem take_length_takeWhile (p : α → Bool) (l : List α) : l.take (l.takeWhile p).length = l.takeWhile p := by
  induction l with
  | nil => rfl
  | cons a l ih => cases h : p a <;> simp [h, ih]

theorem drop_length_takeWhile (p : α → Bool) (l : List α) : l.drop (l.takeWhile p).length = l.dropWhile p := by
  induction l with
  | nil => rfl
  | cons a l ih => cases h : p a <;> simp [h, ih]

/-- The list before eviction: the messages not later than `m`, then `m`, then the rest. -/
theorem insertBounded_eq (m : Message) (ms : List Message) :
    (insertBounded m ms).1 =
      (ms.takeWhile (fun x => decide (x.timestamp ≤ m.timestamp)) ++ m ::
        ms.dropWhile fun x => decide (x.timestamp ≤ m.timestamp)).drop (ms.length + 1 - maxMessagesPerProject) := by
  have hlen := congrArg List.length (List.takeWhile_append_dropWhile (p := fun x => decide (x.timestamp ≤ m.timestamp)) (l := ms))
  simp only [List.length_append] at hlen
  simp only [insertBounded, take_length_takeWhile, drop_length_takeWhile, List.length_append, List.length_cons]
  congr 2
  omega

theorem mem_insertBounded {m x : Message} {ms : List Message} (h : x ∈ (insertBounded m ms).1) :
    x = m ∨ x ∈ ms := by
  rw [insertBounded_eq] at h
  have hx := List.mem_of_mem_drop h
  simp only [List.mem_append, List.mem_cons] at hx
  rcases hx with hx | hx | hx
  · exact .inr ((List.takeWhile_sublist _).subset hx)
  · exact .inl hx
  · exact .inr ((List.dropWhile_sublist _).subset hx)

/-- Inserting `m` keeps a message list a message list: in time order and within its limit,
with distinct ids as long as `m`'s id is there at most once afterwards. -/
theorem conversation_insertBounded {m : Message} {ms : List Message} (h : Conversation ms)
    (hm : m.validate.isValid = true) (hid : ((insertBounded m ms).1.map (·.id)).count m.id ≤ 1) :
    Conversation (insertBounded m ms).1 := by
  have hsplit := List.takeWhile_append_dropWhile (p := fun x : Message => decide (x.timestamp ≤ m.timestamp)) (l := ms)
  refine ⟨fun x hx => ?_, ?_, ?_, ?_⟩
  · rcases mem_insertBounded hx with rfl | hx
    · exact hm
    · exact h.valid x hx
  · -- only `m`'s id can be there twice: every other id is counted as in `ms`
    rw [List.nodup_iff_count_le_one]
    intro a
    by_cases ha : a = m.id
    · subst ha
      exact hid
    · rw [insertBounded_eq]
      refine (((List.drop_sublist _ _).map fun x : Message => x.id).count_le a).trans ?_
      have hms := List.nodup_iff_count_le_one.1 h.ids a
      rw [← hsplit, List.map_append, List.count_append] at hms
      simp only [List.map_append, List.map_cons, List.count_append, List.count_cons, beq_iff_eq, Ne.symm ha,
        if_false, Nat.add_zero]
      exact hms
  · rw [insertBounded_eq, List.length_drop]
    simp only [List.length_append, List.length_cons]
    have := congrArg List.length hsplit
    simp only [List.length_append] at this
    omega
  · -- the messages not later than `m` end at or before it, the rest begin after it
    rw [insertBounded_eq]
    apply List.IsChain.drop
    have hc := h.ordered
    rw [← hsplit, List.isChain_append] at hc
    obtain ⟨htw, hdw, -⟩ := hc
    refine List.isChain_append.2 ⟨htw, List.isChain_cons.2 ⟨fun y hy => ?_, hdw⟩, fun x hx y hy => ?_⟩
    · have hnot := List.head?_dropWhile_not (fun x : Message => decide (x.timestamp ≤ m.timestamp)) ms
      rw [hy] at hnot
      exact Instant.le_of_not_le (by simpa using hnot)
    · simp only [List.head?_cons, Option.mem_def, Option.some.injEq] at hy
      subst hy
      simpa using List.mem_takeWhile_imp (List.mem_of_getLast? hx)

end Messages

end Repo

end DocStore
