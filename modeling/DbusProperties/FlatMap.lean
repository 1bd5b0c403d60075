import Mathlib.Data.String.Basic

/-! # `boost::container::flat_map<std::string, T>`

Every table of `properties.hpp` is a `flat_map` keyed by `std::string`: the methods, the signals
and the properties of a `DbusInterface`, and the interfaces of a `DbusObject`. A `flat_map` is a
vector of entries kept in increasing key order; `FlatMap` carries that order as a field, so no
table of the model can hold a key twice.

* `find` is the iterator `find` returns, as a position (`none` is `end()`); `lookup` is `find`
  followed by `->second` (`find_eq_some_iff`).
* `assign` is `m[k] = v`: `operator[]` finds the `lower_bound` of `k`, inserts there unless the key
  is present, and the assignment writes the value. An iterator to the key stays valid and reads
  the new value (`getElem?_assign_of_find`).
* `emplace` inserts only when the key is absent.

Iteration (`for (auto& e : m)`) is `entries`, in key order. The lookup lemmas of `assign` need no
order; its idempotence and the stability of positions do.
-/

namespace DbusProperties
set_option autoImplicit false

/-- `std::less<std::string>`, the key order of every `flat_map` here: lexicographic on the
characters. -/
def keyLess (a b : String) : Prop := List.lt a.data b.data

instance (a b : String) : Decidable (keyLess a b) := List.hasDecidableLt a.data b.data

theorem keyLess_iff {a b : String} : keyLess a b ↔ a < b :=
  (List.lt_iff_lex_lt a.data b.data).trans String.lt_iff_toList_lt.symm

theorem keyLess_irrefl (a : String) : ¬ keyLess a a := fun h => lt_irrefl a (keyLess_iff.1 h)

theorem keyLess_trans {a b c : String} (h : keyLess a b) (h' : keyLess b c) : keyLess a c :=
  keyLess_iff.2 ((keyLess_iff.1 h).trans (keyLess_iff.1 h'))

theorem ne_of_keyLess {a b : String} (h : keyLess a b) : a ≠ b := by
  rintro rfl; exact keyLess_irrefl a h

theorem eq_of_not_keyLess {a b : String} (h : ¬ keyLess a b) (h' : ¬ keyLess b a) : a = b :=
  le_antisymm (not_lt.1 (mt keyLess_iff.2 h')) (not_lt.1 (mt keyLess_iff.2 h))

/-! ## Entry vectors -/

section Entries
variable {V : Type}

/-- The order a `flat_map` keeps its entries in. -/
def KeySorted (l : List (String × V)) : Prop := l.Pairwise (fun a b => keyLess a.1 b.1)

/-- `m[k] = v` on the entry vector: `lower_bound` walks past the smaller keys, the entry is
inserted there unless its key is already present, and the value is written. -/
def assignEntries (k : String) (v : V) : List (String × V) → List (String × V)
  | [] => [(k, v)]
  | e :: rest =>
    if keyLess e.1 k then e :: assignEntries k v rest
    else if keyLess k e.1 then (k, v) :: e :: rest
    else (k, v) :: rest

/-- `emplace(k, v)`: as `assignEntries`, but an entry already holding `k` is left alone. -/
def emplaceEntries (k : String) (v : V) : List (String × V) → List (String × V)
  | [] => [(k, v)]
  | e :: rest =>
    if keyLess e.1 k then e :: emplaceEntries k v rest
    else if keyLess k e.1 then (k, v) :: e :: rest
    else e :: rest

theorem lookup_cons_ne {k k' : String} {x : V} {l : List (String × V)} (h : k' ≠ k) :
    ((k, x) :: l).lookup k' = l.lookup k' := by
  rw [List.lookup_cons, beq_eq_false_iff_ne.2 h]

theorem lookup_assignEntries_self (k : String) (v : V) (l : List (String × V)) :
    (assignEntries k v l).lookup k = some v := by
  induction l with
  | nil => simp [assignEntries]
  | cons e rest ih =>
    obtain ⟨k', x⟩ := e
    simp only [assignEntries]
    split_ifs with h
    · rw [lookup_cons_ne (ne_of_keyLess h).symm, ih]
    all_goals simp

theorem lookup_assignEntries_ne {k k' : String} (v : V) (l : List (String × V)) (h : k' ≠ k) :
    (assignEntries k v l).lookup k' = l.lookup k' := by
  induction l with
  | nil => simp [assignEntries, lookup_cons_ne h]
  | cons e rest ih =>
    obtain ⟨k'', x⟩ := e
    simp only [assignEntries]
    split_ifs with h1 h2
    · by_cases hk : k' = k''
      · subst hk; simp
      · rw [lookup_cons_ne hk, lookup_cons_ne hk, ih]
    · rw [lookup_cons_ne h]
    · rw [lookup_cons_ne h, eq_of_not_keyLess h1 h2, lookup_cons_ne h]

theorem mem_assignEntries {k : String} {v : V} {l : List (String × V)} {e : String × V}
    (h : e ∈ assignEntries k v l) : e = (k, v) ∨ e ∈ l := by
  induction l with
  | nil => simpa [assignEntries] using h
  | cons e' rest ih =>
    simp only [assignEntries] at h
    split_ifs at h <;> simp only [List.mem_cons] at h
    · exact h.elim (fun h => .inr (h ▸ List.mem_cons_self _ _))
        fun h => (ih h).imp_right (List.mem_cons_of_mem _)
    · exact h.elim .inl fun h => .inr (by simpa using h)
    · exact h.elim .inl fun h => .inr (List.mem_cons_of_mem _ h)

theorem mem_emplaceEntries {k : String} {v : V} {l : List (String × V)} {e : String × V}
    (h : e ∈ emplaceEntries k v l) : e = (k, v) ∨ e ∈ l := by
  induction l with
  | nil => simpa [emplaceEntries] using h
  | cons e' rest ih =>
    simp only [emplaceEntries] at h
    split_ifs at h <;> simp only [List.mem_cons] at h
    · exact h.elim (fun h => .inr (h ▸ List.mem_cons_self _ _))
        fun h => (ih h).imp_right (List.mem_cons_of_mem _)
    · exact h.elim .inl fun h => .inr (by simpa using h)
    · exact .inr (by simpa using h)

theorem keyLess_of_sorted_cons {k : String} {e : String × V} {rest : List (String × V)}
    (hs : KeySorted (e :: rest)) (hk : keyLess k e.1) : ∀ e' ∈ e :: rest, keyLess k e'.1 := by
  intro e' he'
  rcases List.mem_cons.1 he' with rfl | he'
  · exact hk
  · exact keyLess_trans hk (List.rel_of_pairwise_cons hs he')

theorem assignEntries_sorted (k : String) (v : V) {l : List (String × V)} (hs : KeySorted l) :
    KeySorted (assignEntries k v l) := by
  induction l with
  | nil => simp [assignEntries, KeySorted]
  | cons e rest ih =>
    simp only [assignEntries]
    split_ifs with h1 h2
    · refine List.Pairwise.cons (fun e' he' => ?_) (ih hs.of_cons)
      rcases mem_assignEntries he' with rfl | he'
      · exact h1
      · exact List.rel_of_pairwise_cons hs he'
    · exact List.Pairwise.cons (keyLess_of_sorted_cons hs h2) hs
    · have he : e.1 = k := eq_of_not_keyLess h1 h2
      exact List.Pairwise.cons (fun e' he' => he ▸ List.rel_of_pairwise_cons hs he') hs.of_cons

theorem emplaceEntries_sorted (k : String) (v : V) {l : List (String × V)} (hs : KeySorted l) :
    KeySorted (emplaceEntries k v l) := by
  induction l with
  | nil => simp [emplaceEntries, KeySorted]
  | cons e rest ih =>
    simp only [emplaceEntries]
    split_ifs with h1 h2
    · refine List.Pairwise.cons (fun e' he' => ?_) (ih hs.of_cons)
      rcases mem_emplaceEntries he' with rfl | he'
      · exact h1
      · exact List.rel_of_pairwise_cons hs he'
    · exact List.Pairwise.cons (keyLess_of_sorted_cons hs h2) hs
    · exact hs

theorem lookup_eq_none_of_keyLess {k : String} {e : String × V} {rest : List (String × V)}
    (hs : KeySorted (e :: rest)) (hk : keyLess k e.1) : (e :: rest).lookup k = none := by
  simp only [List.lookup_eq_none_iff, bne_iff_ne, ne_eq]
  exact fun e' he' h => keyLess_irrefl k (h ▸ keyLess_of_sorted_cons hs hk e' he')

theorem assignEntries_of_lookup {k : String} {v : V} {l : List (String × V)} (hs : KeySorted l)
    (h : l.lookup k = some v) : assignEntries k v l = l := by
  induction l with
  | nil => simp at h
  | cons e rest ih =>
    simp only [assignEntries]
    split_ifs with h1 h2
    · rw [lookup_cons_ne (ne_of_keyLess h1).symm] at h
      rw [ih hs.of_cons h]
    · rw [lookup_eq_none_of_keyLess hs h2] at h; cases h
    · obtain ⟨k', x⟩ := e
      obtain rfl : k' = k := eq_of_not_keyLess h1 h2
      simp only [List.lookup_cons_self, Option.some.injEq] at h
      rw [h]

theorem findIdx_eq_none_of_keyLess {k : String} {e : String × V} {rest : List (String × V)}
    (hs : KeySorted (e :: rest)) (hk : keyLess k e.1) :
    (e :: rest).findIdx? (fun e => e.1 == k) = none :=
  List.findIdx?_eq_none_iff.2 fun e' he' => by
    simpa using (ne_of_keyLess (keyLess_of_sorted_cons hs hk e' he')).symm

theorem getElem?_assignEntries_of_findIdx {k : String} (v : V) {l : List (String × V)}
    (hs : KeySorted l) {i : Nat} (h : l.findIdx? (fun e => e.1 == k) = some i) :
    (assignEntries k v l)[i]? = some (k, v) := by
  induction l generalizing i with
  | nil => simp at h
  | cons e rest ih =>
    simp only [assignEntries]
    split_ifs with h1 h2
    · have he : (e.1 == k) = false := by simpa using ne_of_keyLess h1
      simp only [List.findIdx?_cons, he, List.findIdx?_succ] at h
      obtain ⟨j, hj, rfl⟩ := Option.map_eq_some'.1 h
      simpa using ih hs.of_cons hj
    · rw [findIdx_eq_none_of_keyLess hs h2] at h; cases h
    · have he : e.1 = k := eq_of_not_keyLess h1 h2
      simp only [List.findIdx?_cons, he, beq_self_eq_true, if_true, Option.some.injEq] at h
      subst h; simp

theorem findIdx?_key_spec {k : String} {l : List (String × V)} {i : Nat}
    (h : l.findIdx? (fun e => e.1 == k) = some i) :
    ∃ v, l[i]? = some (k, v) ∧ l.lookup k = some v := by
  induction l generalizing i with
  | nil => simp at h
  | cons e rest ih =>
    obtain ⟨k', x⟩ := e
    by_cases hk : k' = k
    · subst hk
      simp only [List.findIdx?_cons, beq_self_eq_true, if_true, Option.some.injEq] at h
      subst h; simp
    · simp only [List.findIdx?_cons, beq_eq_false_iff_ne.2 hk, List.findIdx?_succ,
        Bool.false_eq_true, if_false] at h
      obtain ⟨j, hj, rfl⟩ := Option.map_eq_some'.1 h
      obtain ⟨v, hv, hl⟩ := ih hj
      exact ⟨v, by simpa using hv, by rw [lookup_cons_ne (Ne.symm hk), hl]⟩

theorem lookup_of_mem {k : String} {v : V} {l : List (String × V)} (hs : KeySorted l)
    (h : (k, v) ∈ l) : l.lookup k = some v := by
  induction l with
  | nil => simp at h
  | cons e rest ih =>
    obtain ⟨k', x⟩ := e
    rcases List.mem_cons.1 h with h | h
    · simp_all
    · have hk : keyLess k' k := List.rel_of_pairwise_cons hs h
      rw [lookup_cons_ne (ne_of_keyLess hk).symm, ih hs.of_cons h]

theorem lookup_emplaceEntries_ne {k k' : String} (v : V) (l : List (String × V)) (h : k' ≠ k) :
    (emplaceEntries k v l).lookup k' = l.lookup k' := by
  induction l with
  | nil => simp [emplaceEntries, lookup_cons_ne h]
  | cons e rest ih =>
    obtain ⟨k'', x⟩ := e
    simp only [emplaceEntries]
    split_ifs with h1 h2
    · by_cases hk : k' = k''
      · subst hk; simp
      · rw [lookup_cons_ne hk, lookup_cons_ne hk, ih]
    · rw [lookup_cons_ne h]
    · rfl

theorem lookup_emplaceEntries_self (k : String) (v : V) {l : List (String × V)}
    (hs : KeySorted l) : (emplaceEntries k v l).lookup k = (l.lookup k).or (some v) := by
  induction l with
  | nil => simp [emplaceEntries]
  | cons e rest ih =>
    simp only [emplaceEntries]
    split_ifs with h1 h2
    · obtain ⟨k', x⟩ := e
      rw [lookup_cons_ne (ne_of_keyLess h1).symm, lookup_cons_ne (ne_of_keyLess h1).symm,
        ih hs.of_cons]
    · rw [lookup_eq_none_of_keyLess hs h2]; simp
    · obtain ⟨k', x⟩ := e
      obtain rfl : k' = k := eq_of_not_keyLess h1 h2
      simp

end Entries

/-! ## The map -/

/-- A `flat_map<std::string, V>`: its entry vector, in strictly increasing key order. -/
@[ext] structure FlatMap (V : Type) where
  entries : List (String × V)
  sorted : KeySorted entries

namespace FlatMap
variable {V : Type}

/-- The default-constructed map. -/
def empty : FlatMap V := ⟨[], List.Pairwise.nil⟩

/-- `m.find(k)`: the position of the entry holding `k`; `none` is `m.end()`. -/
def find (m : FlatMap V) (k : String) : Option Nat := m.entries.findIdx? (fun e => e.1 == k)

/-- `m.find(k)->second`, where `find` does not return `end()`. -/
def lookup (m : FlatMap V) (k : String) : Option V := m.entries.lookup k

/-- `m[k] = v`. -/
def assign (m : FlatMap V) (k : String) (v : V) : FlatMap V :=
  ⟨assignEntries k v m.entries, assignEntries_sorted k v m.sorted⟩

/-- `m.emplace(k, v)`. -/
def emplace (m : FlatMap V) (k : String) (v : V) : FlatMap V :=
  ⟨emplaceEntries k v m.entries, emplaceEntries_sorted k v m.sorted⟩

@[simp] theorem lookup_empty (k : String) : (empty : FlatMap V).lookup k = none := rfl

@[simp] theorem lookup_assign (m : FlatMap V) (k k' : String) (v : V) :
    (m.assign k v).lookup k' = if k' = k then some v else m.lookup k' := by
  split_ifs with h
  · subst h; exact lookup_assignEntries_self k' v m.entries
  · exact lookup_assignEntries_ne v m.entries h

theorem lookup_emplace (m : FlatMap V) (k k' : String) (v : V) :
    (m.emplace k v).lookup k' = if k' = k then (m.lookup k).or (some v) else m.lookup k' := by
  split_ifs with h
  · subst h; exact lookup_emplaceEntries_self k' v m.sorted
  · exact lookup_emplaceEntries_ne v m.entries h

theorem assign_of_lookup {m : FlatMap V} {k : String} {v : V} (h : m.lookup k = some v) :
    m.assign k v = m :=
  FlatMap.ext (assignEntries_of_lookup m.sorted h)

theorem find_eq_none_iff {m : FlatMap V} {k : String} : m.find k = none ↔ m.lookup k = none := by
  simp only [find, lookup, List.findIdx?_eq_none_iff, List.lookup_eq_none_iff,
    beq_eq_false_iff_ne, bne_iff_ne]
  exact ⟨fun h e he => (h e he).symm, fun h e he => (h e he).symm⟩

theorem find_spec {m : FlatMap V} {k : String} {i : Nat} (h : m.find k = some i) :
    ∃ v, m.entries[i]? = some (k, v) ∧ m.lookup k = some v :=
  findIdx?_key_spec h

/-- After `m[k] = v` the iterator `m.find(k)` returned before is still valid and reads `(k, v)`. -/
theorem getElem?_assign_of_find {m : FlatMap V} {k : String} (v : V) {i : Nat}
    (h : m.find k = some i) : (m.assign k v).entries[i]? = some (k, v) :=
  getElem?_assignEntries_of_findIdx v m.sorted h

theorem mem_entries_iff {m : FlatMap V} {k : String} {v : V} :
    (k, v) ∈ m.entries ↔ m.lookup k = some v := by
  refine ⟨lookup_of_mem m.sorted, fun h => ?_⟩
  obtain ⟨l₁, l₂, hl, -⟩ := List.lookup_eq_some_iff.1 h
  rw [hl]; simp

end FlatMap

end DbusProperties
