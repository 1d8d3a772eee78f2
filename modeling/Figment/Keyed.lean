/-!
Finite maps with texts as keys: lists of pairs in ascending order of the keys.

Main statements: looking up a key after `put` finds the new value there and the old one elsewhere,
and `put` keeps the order.
-/

namespace Figment.Keyed

variable {α : Type}

def find? (key : String) : List (String × α) → Option α
  | [] => none
  | (k, v) :: rest => if k = key then some v else find? key rest

/-- The map with a value at a key, in place of the one that is there. -/
def put (key : String) (value : α) : List (String × α) → List (String × α)
  | [] => [(key, value)]
  | (k, v) :: rest =>
    if key = k then (key, value) :: rest
    else if key < k then (key, value) :: (k, v) :: rest
    else (k, v) :: put key value rest

/-- The map that holds these pairs; of several with one key the last one counts. -/
def ofList (entries : List (String × α)) : List (String × α) :=
  entries.foldl (fun m e => put e.1 e.2 m) []

def keys (m : List (String × α)) : List String :=
  m.map (·.1)

/-- The keys stand in ascending order, each once. -/
def Ordered (m : List (String × α)) : Prop :=
  (keys m).Pairwise (· < ·)

instance (m : List (String × α)) : Decidable (Ordered m) :=
  inferInstanceAs (Decidable ((keys m).Pairwise (· < ·)))

theorem find?_put_self (key : String) (value : α) (m : List (String × α)) :
    find? key (put key value m) = some value := by
  induction m with
  | nil => simp [put, find?]
  | cons e rest ih =>
    obtain ⟨k, v⟩ := e
    by_cases h : key = k
    · simp [put, find?, h]
    · by_cases lt : key < k
      · simp [put, find?, h, lt]
      · simp [put, find?, h, lt, ih, Ne.symm h]

theorem find?_put_of_ne {key other : String} (value : α) (m : List (String × α))
    (ne : other ≠ key) : find? other (put key value m) = find? other m := by
  induction m with
  | nil => simp [put, find?, Ne.symm ne]
  | cons e rest ih =>
    obtain ⟨k, v⟩ := e
    by_cases h : key = k
    · subst h
      simp [put, find?, Ne.symm ne]
    · by_cases lt : key < k
      · simp [put, find?, h, lt, Ne.symm ne]
      · simp [put, find?, h, lt, ih]

theorem mem_keys_put (key : String) (value : α) (m : List (String × α)) (k : String) :
    k ∈ keys (put key value m) ↔ k = key ∨ k ∈ keys m := by
  induction m with
  | nil => simp [put, keys]
  | cons e rest ih =>
    obtain ⟨l, v⟩ := e
    by_cases h : key = l
    · subst h
      simp [put, keys]
    · by_cases lt : key < l
      · simp [put, keys, h, lt]
      · simp only [put, h, lt, if_false, keys, List.map_cons, List.mem_cons] at ih ⊢
        simp only [ih]
        grind

theorem mem_put {key : String} {value : α} {m : List (String × α)} {e : String × α}
    (h : e ∈ put key value m) : e = (key, value) ∨ e ∈ m := by
  induction m with
  | nil => exact .inl (List.mem_singleton.1 h)
  | cons first rest ih =>
    rw [put] at h
    split at h
    · rcases List.mem_cons.1 h with here | later
      · exact .inl here
      · exact .inr (List.mem_cons_of_mem first later)
    · split at h
      · exact List.mem_cons.1 h
      · rcases List.mem_cons.1 h with rfl | later
        · exact .inr List.mem_cons_self
        · exact (ih later).imp_right (List.mem_cons_of_mem first)

theorem mem_of_find? {key : String} {value : α} {m : List (String × α)}
    (h : find? key m = some value) : (key, value) ∈ m := by
  induction m with
  | nil => cases h
  | cons e rest ih =>
    rw [find?] at h
    split at h
    · next same =>
      cases h
      rw [← same]
      exact List.mem_cons_self
    · exact List.mem_cons_of_mem e (ih h)

theorem ordered_nil : Ordered ([] : List (String × α)) := List.Pairwise.nil

theorem Ordered.find?_eq_some_iff {m : List (String × α)} (h : Ordered m) {key : String} {value : α} :
    find? key m = some value ↔ (key, value) ∈ m := by
  refine ⟨mem_of_find?, fun mem => ?_⟩
  induction m with
  | nil => cases mem
  | cons e rest ih =>
    obtain ⟨first, later⟩ := List.pairwise_cons.1 h
    rcases List.mem_cons.1 mem with rfl | mem
    · exact if_pos rfl
    · have above := first key (List.mem_map_of_mem mem)
      have ne : e.1 ≠ key := fun same => String.lt_irrefl key (same ▸ above)
      rw [find?, if_neg ne, ih later mem]

theorem Ordered.put {m : List (String × α)} (h : Ordered m) (key : String) (value : α) :
    Ordered (Keyed.put key value m) := by
  induction m with
  | nil => exact List.pairwise_singleton _ _
  | cons e rest ih =>
    obtain ⟨k, v⟩ := e
    obtain ⟨first, later⟩ := List.pairwise_cons.1 h
    by_cases eq : key = k
    · subst eq
      simp only [Keyed.put, if_true]
      exact h
    · by_cases lt : key < k
      · simp only [Keyed.put, eq, lt, if_false, if_true]
        refine List.pairwise_cons.2 ⟨fun l hl => ?_, h⟩
        rcases List.mem_cons.1 hl with rfl | hl
        · exact lt
        · exact String.lt_trans lt (first l hl)
      · simp only [Keyed.put, eq, lt, if_false]
        refine List.pairwise_cons.2 ⟨fun l hl => ?_, ih later⟩
        rcases (mem_keys_put key value rest l).1 hl with rfl | hl
        · exact Std.lt_of_le_of_ne (String.not_lt.1 lt) (Ne.symm eq)
        · exact first l hl

theorem Ordered.put_of_find? {m : List (String × α)} (h : Ordered m) {key : String} {value : α}
    (found : find? key m = some value) : Keyed.put key value m = m := by
  induction m with
  | nil => cases found
  | cons e rest ih =>
    obtain ⟨k, v⟩ := e
    obtain ⟨first, later⟩ := List.pairwise_cons.1 h
    rw [find?] at found
    rw [Keyed.put]
    split at found
    · next same =>
      cases found
      rw [if_pos same.symm, same]
    · next other =>
      have above : k < key := first key (List.mem_map_of_mem (mem_of_find? found))
      rw [if_neg (Ne.symm other), if_neg (String.lt_asymm above), ih later found]

end Figment.Keyed
