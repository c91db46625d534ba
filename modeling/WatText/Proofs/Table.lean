import Mathlib.Data.List.Basic
import Mathlib.Data.List.Forall2
import Mathlib.Data.List.Induction
import WatText.Table

/-!
# Tables as insertion-ordered maps

`entries_putAll`: after any puts into the empty table, the entries are the keys in the order of
their first put, each with the value of its last one (`latest`).

`keys_put` and `get?_put` give the two views of a table after one put; a table with distinct keys is
determined by its two views (`entries_eq_of_nodup`), so each view is followed on its own.
-/

namespace WatText.Table

variable {κ α : Type} [DecidableEq κ]

def putAll (t : Table κ α) (es : List (κ × α)) : Table κ α :=
  es.foldl (fun t e => t.put e.1 e.2) t

/-- The keys in the order of their first appearance, each with the last value given with it. -/
def latest (es : List (κ × α)) : List (κ × α) :=
  (es.map Prod.fst).eraseDups.filterMap fun key => (find? key es.reverse).map fun a => (key, a)

theorem putAll_concat (t : Table κ α) (es : List (κ × α)) (e : κ × α) :
    t.putAll (es ++ [e]) = (t.putAll es).put e.1 e.2 := by
  unfold putAll
  rw [List.foldl_append]
  rfl

/-! ## One put -/

/-- A new key goes to the end and leaves the entries before it as they are. -/
theorem entries_put_of_not_mem {t : Table κ α} {key : κ} (h : key ∉ t.keys) (value : α) :
    (t.put key value).entries = t.entries ++ [(key, value)] := by
  obtain ⟨entries⟩ := t
  unfold keys at h
  unfold put
  induction entries with
  | nil => rfl
  | cons e rest ih =>
    obtain ⟨k, a⟩ := e
    have hk : k ≠ key := fun he => h (he ▸ List.mem_cons_self)
    have hr : key ∉ rest.map Prod.fst := fun hm => h (List.mem_cons_of_mem k hm)
    show replace key value ((k, a) :: rest) = _
    rw [replace, if_neg hk]
    exact congrArg ((k, a) :: ·) (ih hr)

theorem mem_entries_put {t : Table κ α} {key : κ} {value : α} {e : κ × α}
    (h : e ∈ (t.put key value).entries) : e = (key, value) ∨ e ∈ t.entries := by
  obtain ⟨entries⟩ := t
  unfold put at h
  induction entries with
  | nil => exact .inl (List.mem_singleton.1 h)
  | cons d rest ih =>
    obtain ⟨k, a⟩ := d
    dsimp only at h ih ⊢
    rw [replace] at h
    by_cases hk : k = key
    · rw [if_pos hk] at h
      rcases List.mem_cons.1 h with rfl | h
      · exact .inl (by rw [hk])
      · exact .inr (List.mem_cons_of_mem _ h)
    · rw [if_neg hk] at h
      rcases List.mem_cons.1 h with rfl | h
      · exact .inr List.mem_cons_self
      · exact (ih h).imp_right (List.mem_cons_of_mem _)

omit [DecidableEq κ] in
theorem length_values (t : Table κ α) : t.values.length = t.size :=
  List.length_map _

theorem keys_put_of_mem {t : Table κ α} {key : κ} (h : key ∈ t.keys) (value : α) :
    (t.put key value).keys = t.keys := by
  rw [keys_put, if_pos h]

/-- A key that is present keeps its place, and the entries around it stay as they are. -/
theorem entries_put_of_append {t : Table κ α} {before after : List (κ × α)} {key : κ} {a : α}
    (h : t.entries = before ++ (key, a) :: after) (hn : key ∉ before.map Prod.fst) (value : α) :
    (t.put key value).entries = before ++ (key, value) :: after := by
  unfold put
  rw [h]
  clear h
  dsimp only
  induction before with
  | nil => exact if_pos rfl
  | cons e before ih =>
    have hk : e.1 ≠ key := fun he => hn (he ▸ List.mem_cons_self)
    have hrest := ih fun hm => hn (List.mem_cons_of_mem e.1 hm)
    rw [List.cons_append, replace, if_neg hk, hrest]
    rfl

/-- What does not look at a key does not see what is put under it. -/
theorem filterMap_entries_put {β : Type} {f : κ × α → Option β} {key : κ}
    (hf : ∀ a, f (key, a) = none) (t : Table κ α) (value : α) :
    (t.put key value).entries.filterMap f = t.entries.filterMap f := by
  obtain ⟨entries⟩ := t
  unfold put
  dsimp only
  induction entries with
  | nil => exact List.filterMap_cons_none (hf value)
  | cons e rest ih =>
    obtain ⟨k, a⟩ := e
    by_cases h : k = key
    · subst h
      rw [replace, if_pos rfl, List.filterMap_cons_none (hf value), List.filterMap_cons_none (hf a)]
    · rw [replace, if_neg h, List.filterMap_cons, List.filterMap_cons, ih]

/-- What a key has after some puts is one of the values put, or was there before. -/
theorem get?_putAll_cases {t : Table κ α} {es : List (κ × α)} {key : κ} {a : α}
    (h : (t.putAll es).get? key = some a) : (key, a) ∈ es ∨ t.get? key = some a := by
  induction es using List.reverseRecOn with
  | nil => exact .inr h
  | append_singleton es e ih =>
    rw [putAll_concat, get?_put] at h
    by_cases hk : key = e.1
    · rw [if_pos hk] at h
      cases h
      exact .inl (by simp [hk])
    · rw [if_neg hk] at h
      exact (ih h).imp_left (List.mem_append_left [e])

/-! ## What is found -/

theorem find?_eq_some_iff {es : List (κ × α)} {key : κ} {a : α} :
    find? key es = some a ↔
      ∃ before after, es = before ++ (key, a) :: after ∧ key ∉ before.map Prod.fst := by
  induction es with
  | nil => simp [find?]
  | cons e es ih =>
    rw [find?]
    by_cases h : e.1 = key
    · rw [if_pos h]
      constructor
      · rintro ⟨⟩
        exact ⟨[], es, by rw [← h]; rfl, by simp⟩
      · rintro ⟨before, after, heq, hn⟩
        cases before with
        | nil => cases heq; rfl
        | cons d before => cases heq; exact absurd (by simp [h]) hn
    · rw [if_neg h, ih]
      constructor
      · rintro ⟨before, after, rfl, hn⟩
        exact ⟨e :: before, after, rfl, by simpa using ⟨Ne.symm h, by simpa using hn⟩⟩
      · rintro ⟨before, after, heq, hn⟩
        cases before with
        | nil => cases heq; exact absurd rfl h
        | cons d before =>
          cases heq
          exact ⟨before, after, rfl, fun hm => hn (List.mem_cons_of_mem _ hm)⟩

theorem mem_of_find?_eq_some {es : List (κ × α)} {key : κ} {a : α} (h : find? key es = some a) :
    (key, a) ∈ es := by
  obtain ⟨before, after, rfl, -⟩ := find?_eq_some_iff.1 h
  exact List.mem_append_right before List.mem_cons_self

/-! ## The two views determine the entries -/

theorem find?_of_mem_nodup {es : List (κ × α)} (h : (es.map Prod.fst).Nodup) {e : κ × α}
    (he : e ∈ es) : find? e.1 es = some e.2 := by
  obtain ⟨before, after, rfl⟩ := List.append_of_mem he
  rw [List.map_append, List.nodup_append] at h
  exact find?_eq_some_iff.2 ⟨before, after, rfl, fun hm => h.2.2 _ hm _ List.mem_cons_self rfl⟩

theorem entries_eq_of_nodup {t : Table κ α} (h : t.keys.Nodup) :
    t.entries = t.keys.filterMap fun key => (t.get? key).map fun a => (key, a) := by
  unfold keys
  rw [List.filterMap_map]
  have hf : ∀ e ∈ t.entries,
      ((fun key => (t.get? key).map fun a => (key, a)) ∘ Prod.fst) e = some e := by
    intro e he
    show (find? e.1 t.entries).map (fun a => (e.1, a)) = some e
    rw [find?_of_mem_nodup h he]
    rfl
  rw [List.filterMap_congr hf, List.filterMap_some]

/-! ## Many puts -/

theorem nodup_keys_putAll (es : List (κ × α)) : (putAll ({} : Table κ α) es).keys.Nodup := by
  induction es using List.reverseRecOn with
  | nil => exact List.nodup_nil
  | append_singleton es e ih =>
    rw [putAll_concat]
    exact nodup_keys_put ih e.1 e.2

theorem keys_putAll (es : List (κ × α)) :
    (putAll ({} : Table κ α) es).keys = (es.map Prod.fst).eraseDups := by
  -- from the end, because a put acts on what the puts before it made
  induction es using List.reverseRecOn with
  | nil => rfl
  | append_singleton es e ih =>
    rw [putAll_concat, keys_put, ih, List.map_append, List.eraseDups_append]
    by_cases h : e.1 ∈ es.map Prod.fst
    · rw [if_pos (List.mem_eraseDups.2 h)]
      simp [List.removeAll, h]
    · rw [if_neg (fun hm => h (List.mem_eraseDups.1 hm))]
      simp [List.removeAll, h, List.eraseDups_cons]

theorem get?_putAll (es : List (κ × α)) (key : κ) :
    (putAll ({} : Table κ α) es).get? key = find? key es.reverse := by
  induction es using List.reverseRecOn with
  | nil => rfl
  | append_singleton es e ih =>
    rw [putAll_concat, get?_put, ih, List.reverse_concat, find?]
    by_cases h : key = e.1
    · rw [if_pos h, if_pos h.symm]
    · rw [if_neg h, if_neg (fun he => h he.symm)]

/-- What is found from the end is the value given with the last appearance of the key. -/
theorem find?_reverse_eq_some_iff {es : List (κ × α)} {key : κ} {a : α} :
    find? key es.reverse = some a ↔
      ∃ before after, es = before ++ (key, a) :: after ∧ key ∉ after.map Prod.fst := by
  rw [find?_eq_some_iff]
  constructor
  · rintro ⟨before, after, heq, hn⟩
    refine ⟨after.reverse, before.reverse, ?_, by simpa using hn⟩
    rw [← List.reverse_reverse es, heq]
    simp
  · rintro ⟨before, after, rfl, hn⟩
    exact ⟨after.reverse, before.reverse, by simp, by simpa using hn⟩

theorem mem_of_get?_putAll {es : List (κ × α)} {key : κ} {a : α}
    (h : (putAll ({} : Table κ α) es).get? key = some a) : (key, a) ∈ es := by
  rw [get?_putAll] at h
  exact List.mem_reverse.1 (mem_of_find?_eq_some h)

/-- The value of a key is the one that was given with its last appearance. -/
theorem mem_latest_iff {es : List (κ × α)} {key : κ} {a : α} :
    (key, a) ∈ latest es ↔
      ∃ before after, es = before ++ (key, a) :: after ∧ key ∉ after.map Prod.fst := by
  rw [← find?_reverse_eq_some_iff]
  constructor
  · intro h
    obtain ⟨k, -, hk⟩ := List.mem_filterMap.1 h
    obtain ⟨b, hb, he⟩ := Option.map_eq_some_iff.1 hk
    cases he
    exact hb
  · intro h
    have hmem : (key, a) ∈ es := List.mem_reverse.1 (mem_of_find?_eq_some h)
    refine List.mem_filterMap.2 ⟨key, ?_, by rw [h]; rfl⟩
    exact List.mem_eraseDups.2 (List.mem_map.2 ⟨_, hmem, rfl⟩)

theorem mem_of_mem_latest {es : List (κ × α)} {e : κ × α} (h : e ∈ latest es) : e ∈ es := by
  obtain ⟨before, after, rfl, -⟩ := mem_latest_iff.1 h
  exact List.mem_append_right before List.mem_cons_self

/-- First position, last value. -/
theorem entries_putAll (es : List (κ × α)) :
    (putAll ({} : Table κ α) es).entries = latest es := by
  rw [entries_eq_of_nodup (nodup_keys_putAll es), keys_putAll]
  unfold latest
  exact List.filterMap_congr fun key _ => by rw [get?_putAll]

theorem latest_ne_nil {es : List (κ × α)} {e : κ × α} (h : e ∈ es) : latest es ≠ [] := by
  intro hnil
  have hkeys : (es.map Prod.fst).eraseDups = [] := by
    rw [← keys_putAll, keys, entries_putAll, hnil]
    rfl
  have hmem : e.1 ∈ (es.map Prod.fst).eraseDups := List.mem_eraseDups.2 (List.mem_map_of_mem h)
  rw [hkeys] at hmem
  cases hmem

example : latest [("a", 1), ("b", 2), ("a", 3)] = [("a", 3), ("b", 2)] := by decide

/-! ## Tables side by side -/

/-- Whether two tables have the same keys in the same order, with related values. -/
def Related (R : κ → α → α → Prop) (t t' : Table κ α) : Prop :=
  List.Forall₂ (fun e e' => e.1 = e'.1 ∧ R e.1 e.2 e'.2) t.entries t'.entries

section Related

variable {R : κ → α → α → Prop} {t t' : Table κ α}

/-- Putting related values under one key keeps the tables related. -/
theorem Related.put (h : Related R t t') {key : κ} {a a' : α} (ha : R key a a') :
    Related R (t.put key a) (t'.put key a') := by
  obtain ⟨entries⟩ := t
  obtain ⟨entries'⟩ := t'
  unfold Related Table.put at *
  dsimp only at h ⊢
  induction h with
  | nil => exact .cons ⟨rfl, ha⟩ .nil
  | @cons e e' rest rest' he hrest ih =>
    obtain ⟨k, b⟩ := e
    obtain ⟨k', b'⟩ := e'
    obtain ⟨hk, hb⟩ := he
    dsimp only at hk hb
    subst hk
    rw [replace, replace]
    by_cases hkey : k = key
    · subst hkey
      rw [if_pos rfl, if_pos rfl]
      exact .cons ⟨rfl, ha⟩ hrest
    · rw [if_neg hkey, if_neg hkey]
      exact .cons ⟨rfl, hb⟩ ih

theorem Related.putAll (h : Related R t t') {es es' : List (κ × α)}
    (hes : List.Forall₂ (fun e e' => e.1 = e'.1 ∧ R e.1 e.2 e'.2) es es') :
    Related R (t.putAll es) (t'.putAll es') := by
  induction hes generalizing t t' with
  | nil => exact h
  | @cons e e' rest rest' he hrest ih =>
    obtain ⟨hk, hr⟩ := he
    have hput := h.put hr
    rw [hk] at hput
    show Related R ((t.put e.1 e.2).putAll rest) ((t'.put e'.1 e'.2).putAll rest')
    rw [hk]
    exact ih hput

omit [DecidableEq κ] in
/-- What does not tell related values apart is the same for both tables. -/
theorem Related.map_eq {β : Type} {g : κ × α → β} (h : Related R t t')
    (hg : ∀ key a a', R key a a' → g (key, a) = g (key, a')) :
    t.entries.map g = t'.entries.map g := by
  unfold Related at h
  generalize t.entries = es, t'.entries = es' at h ⊢
  induction h with
  | nil => rfl
  | @cons e e' rest rest' he hrest ih =>
    obtain ⟨hk, hr⟩ := he
    have hhead : g e = g (e.1, e'.2) := hg e.1 e.2 e'.2 hr
    rw [List.map_cons, List.map_cons, ih, hhead, hk]

omit [DecidableEq κ] in
theorem Related.keys_eq (h : Related R t t') : t.keys = t'.keys :=
  h.map_eq fun _ _ _ _ => rfl

omit [DecidableEq κ] in
theorem Related.size_eq (h : Related R t t') : t.size = t'.size :=
  List.Forall₂.length_eq h

omit [DecidableEq κ] in
theorem Related.values {P : α → α → Prop} (h : Related (fun _ => P) t t') :
    List.Forall₂ P t.values t'.values := by
  unfold Table.values
  rw [List.forall₂_map_left_iff, List.forall₂_map_right_iff]
  exact List.Forall₂.imp (fun _ _ he => he.2) h

end Related

end WatText.Table
