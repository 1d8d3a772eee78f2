import Figment.Cache
import Figment.Proofs.Distinct
import Figment.Proofs.Span
/-!
The cache as a map that is written once for each kind.

A look-up stops at the first free slot. It misses nothing, because a chunk follows another one only
when that is full and the slots of a chunk are filled from the front: `Filled` says so, and is kept by
every call. So the calls that are made one after another run the makers of the first call of each kind
and no others, and all calls of a kind get the instance that its first call made.
-/

namespace Figment

/-- Chunks with the instances in them, in the order in which they were made. -/
inductive Cache.Filled {κ α : Type} : List (Chunk κ α) → List (κ × α) → Prop
  | last {es : List (κ × α)} {free : Nat} : es.length + free = chunkSize →
      Filled [es.map some ++ List.replicate free none] es
  | full {es more : List (κ × α)} {rest : List (Chunk κ α)} : es.length = chunkSize →
      Filled rest more → Filled (es.map some :: rest) (es ++ more)

namespace Chunk

variable {κ α : Type}

theorem fill?_full (entry : κ × α) (es : List (κ × α)) : fill? entry (es.map some) = none := by
  induction es with
  | nil => rfl
  | cons e es ih => rw [List.map_cons, fill?, ih, Option.map_none]

theorem fill?_free (entry : κ × α) (es : List (κ × α)) (slots : Chunk κ α) :
    fill? entry (es.map some ++ none :: slots) = some (es.map some ++ some entry :: slots) := by
  induction es with
  | nil => rfl
  | cons e es ih => rw [List.map_cons, List.cons_append, fill?, ih, Option.map_some, List.cons_append]

end Chunk

namespace Cache

variable {κ α : Type}

theorem filled_empty : Filled (empty : Cache κ α).chunks [] :=
  @Filled.last _ _ [] chunkSize rfl

/-- One more instance goes into the first free slot, or into a chunk of its own. -/
theorem Filled.append {c : Cache κ α} {es : List (κ × α)} (h : Filled c.chunks es) (entry : κ × α) :
    Filled (c.append entry).chunks (es ++ [entry]) := by
  obtain ⟨chunk, rest⟩ := c
  change Filled (chunk :: rest) es at h
  change Filled (appendTo entry chunk rest).chunks _
  -- The recursion of `appendTo`: a chunk that another one follows is full and passes the instance on.
  induction rest generalizing chunk es with
  | nil =>
    cases h with
    | @last _ free size =>
      cases free with
      | zero =>
        rw [List.replicate_zero, List.append_nil, appendTo, Chunk.fill?_full]
        exact .full size (@Filled.last _ _ [entry] (chunkSize - 1) rfl)
      | succ free =>
        rw [List.replicate_succ, appendTo, Chunk.fill?_free]
        have filled : es.map some ++ some entry :: List.replicate free none =
            (es ++ [entry]).map some ++ List.replicate free none := by simp
        dsimp only [chunks]
        rw [filled]
        exact .last (by rw [List.length_append, List.length_singleton]; omega)
    | full size more => cases more
  | cons next rest ih =>
    cases h with
    | @full es more _ size filled =>
      rw [appendTo, Chunk.fill?_full, List.append_assoc]
      exact .full size (ih next filled)

/-- Behind the instances there is nothing but free slots. -/
theorem Filled.flatten {chunks : List (Chunk κ α)} {es : List (κ × α)} (h : Filled chunks es) :
    ∃ free, chunks.flatten = es.map some ++ List.replicate free none := by
  induction h with
  | @last es free _ => exact ⟨free, by simp⟩
  | full _ _ ih =>
    obtain ⟨free, rest⟩ := ih
    exact ⟨free, by rw [List.flatten_cons, rest, List.map_append, List.append_assoc]⟩

theorem Filled.entries_eq {c : Cache κ α} {es : List (κ × α)} (h : Filled c.chunks es) :
    c.entries = es := by
  obtain ⟨free, slots⟩ := h.flatten
  have filled : ∀ slot ∈ es.map some, slot.isSome := by
    rintro _ mem
    obtain ⟨e, _, rfl⟩ := List.mem_map.1 mem
    rfl
  have stop : ∀ slot ∈ (List.replicate free (none : Option (κ × α))).head?, slot.isSome = false := by
    cases free with
    | zero => exact nofun
    | succ free =>
      rintro _ ⟨⟩
      rfl
  rw [entries, slots, takeWhile_append_stop filled stop]
  simp

/-- All chunks have the same number of slots. Only the last one may have free slots, which stand
behind those that are filled. -/
structure WellFormed (chunks : List (Chunk κ α)) : Prop where
  size : ∀ chunk ∈ chunks, chunk.length = chunkSize
  front : ∀ chunk ∈ chunks.dropLast, ∀ slot ∈ chunk, slot.isSome
  last : ∃ (es : List (κ × α)) (free : Nat),
    chunks.getLast? = some (es.map some ++ List.replicate free none)

theorem Filled.ne_nil {chunks : List (Chunk κ α)} {es : List (κ × α)} (h : Filled chunks es) :
    chunks ≠ [] := by
  cases h with
  | last _ => exact List.cons_ne_nil _ _
  | full _ _ => exact List.cons_ne_nil _ _

theorem Filled.wellFormed {chunks : List (Chunk κ α)} {es : List (κ × α)} (h : Filled chunks es) :
    WellFormed chunks := by
  induction h with
  | @last es free size =>
    refine ⟨fun chunk mem => ?_, nofun, es, free, rfl⟩
    rw [List.mem_singleton.1 mem, List.length_append, List.length_map, List.length_replicate, size]
  | @full es _ rest size more ih =>
    refine ⟨?_, ?_, ?_⟩
    · rw [List.forall_mem_cons]
      exact ⟨by rw [List.length_map, size], ih.size⟩
    · rw [List.dropLast_cons_of_ne_nil more.ne_nil, List.forall_mem_cons]
      refine ⟨?_, ih.front⟩
      intro slot mem
      obtain ⟨e, _, rfl⟩ := List.mem_map.1 mem
      rfl
    · rw [List.getLast?_cons_of_ne_nil more.ne_nil]
      exact ih.last

/-- A call for the instance of a kind. -/
structure Call (κ σ α : Type) where
  kind : κ
  make : StateM σ α

variable {σ : Type}

/-- The kind of a call with what its maker makes. -/
def Call.entry (call : Call κ σ α) : StateM σ (κ × α) := do
  return (call.kind, ← call.make)

theorem bind_of_run {β γ : Type} {d : StateM σ β} {f : β → StateM σ γ} {b : β} {w after : σ}
    (h : d w = (b, after)) : (d >>= f) w = f b after := by
  change f (d w).1 (d w).2 = _
  rw [h]

theorem map_fst_of_mapM_entry {calls : List (Call κ σ α)} {made : List (κ × α)} {w after : σ}
    (h : calls.mapM Call.entry w = (made, after)) : made.map (·.1) = calls.map (·.kind) := by
  induction calls generalizing made w with
  | nil =>
    cases h
    rfl
  | cons call calls ih =>
    rw [List.mapM_cons] at h
    rcases run : call.make w with ⟨a, middle⟩
    have entry : call.entry w = ((call.kind, a), middle) := bind_of_run run
    rcases rest : calls.mapM Call.entry middle with ⟨more, last⟩
    rw [bind_of_run entry, bind_of_run rest] at h
    cases h
    rw [List.map_cons, List.map_cons, ih rest]

section Served

variable [BEq κ]

/-- The answers to calls that are made one after another, and the cache after them. -/
def serve (c : Cache κ α) : List (Call κ σ α) → StateM σ (List α × Cache κ α)
  | [] => pure ([], c)
  | call :: calls => do
    let (a, c) ← c.getOrCreateM call.kind call.make
    let (as, c) ← c.serve calls
    return (a :: as, c)

/-- The calls of kinds of which there is no instance, each the first one of its kind. -/
def firsts (es : List (κ × α)) (calls : List (Call κ σ α)) : List (Call κ σ α) :=
  (calls.filter fun call => (es.lookup call.kind).isNone).eraseDupsBy (·.kind == ·.kind)

theorem firsts_nil (calls : List (Call κ σ α)) :
    firsts [] calls = calls.eraseDupsBy (·.kind == ·.kind) := by
  simp [firsts]

theorem firsts_of_known {es : List (κ × α)} {call : Call κ σ α} {a : α}
    (h : es.lookup call.kind = some a) (calls : List (Call κ σ α)) :
    firsts es (call :: calls) = firsts es calls := by
  simp [firsts, h]

theorem firsts_of_new {es : List (κ × α)} {call : Call κ σ α} (h : es.lookup call.kind = none)
    (a : α) (calls : List (Call κ σ α)) :
    firsts es (call :: calls) = call :: firsts (es ++ [(call.kind, a)]) calls := by
  rw [firsts, List.filter_cons_of_pos (by rw [h]; rfl), List.eraseDupsBy_cons, List.filter_filter,
    firsts]
  refine congrArg (fun calls => call :: List.eraseDupsBy _ calls) ?_
  refine List.filter_congr fun other _ => ?_
  rw [List.lookup_append, List.lookup_cons, List.lookup_nil]
  cases es.lookup other.kind with
  | some b => simp
  | none => cases other.kind == call.kind <;> rfl

variable [LawfulBEq κ]

theorem find?_eq_lookup {c : Cache κ α} {es : List (κ × α)} (h : Filled c.chunks es) (kind : κ) :
    c.find? kind = es.lookup kind := by
  rw [find?, h.entries_eq]
  clear h
  induction es with
  | nil => rfl
  | cons e es ih =>
    obtain ⟨k, a⟩ := e
    rw [List.find?_cons, List.lookup_cons, BEq.comm]
    cases kind == k with
    | true => rfl
    | false => exact ih

/-- One call. Its maker is run only if there is no instance of its kind. -/
theorem Filled.getOrCreateM {c : Cache κ α} {es : List (κ × α)} (h : Filled c.chunks es)
    (call : Call κ σ α) (w : σ) :
    (∀ a, es.lookup call.kind = some a → c.getOrCreateM call.kind call.make w = ((a, c), w)) ∧
    (es.lookup call.kind = none → ∀ a after, call.make w = (a, after) →
      c.getOrCreateM call.kind call.make w = ((a, c.append (call.kind, a)), after)) := by
  unfold Cache.getOrCreateM
  rw [find?_eq_lookup h]
  constructor
  · intro a known
    rw [known]
    rfl
  · intro new a after made
    rw [new]
    exact bind_of_run made

theorem serve_of_filled {c : Cache κ α} {es : List (κ × α)} (h : Filled c.chunks es)
    (calls : List (Call κ σ α)) (w : σ) :
    ∃ made after results c', (firsts es calls).mapM Call.entry w = (made, after) ∧
      c.serve calls w = ((results, c'), after) ∧ Filled c'.chunks (es ++ made) ∧
      results.map some = calls.map fun call => (es ++ made).lookup call.kind := by
  induction calls generalizing c es w with
  | nil => exact ⟨[], w, [], c, rfl, rfl, by rwa [List.append_nil], rfl⟩
  | cons call calls ih =>
    obtain ⟨known, new⟩ := h.getOrCreateM call w
    cases found : es.lookup call.kind with
    | some a =>
      obtain ⟨made, after, results, c', makers, served, filled, answers⟩ := ih h w
      refine ⟨made, after, a :: results, c', ?_, ?_, filled, ?_⟩
      · rw [firsts_of_known found, makers]
      · rw [serve, bind_of_run (known a found)]
        dsimp only
        rw [bind_of_run served]
        rfl
      · rw [List.map_cons, List.map_cons, answers, List.lookup_append, found]
        rfl
    | none =>
      rcases run : call.make w with ⟨a, middle⟩
      obtain ⟨made, after, results, c', makers, served, filled, answers⟩ :=
        ih (h.append (call.kind, a)) middle
      have longer := List.append_cons es (call.kind, a) made
      refine ⟨(call.kind, a) :: made, after, a :: results, c', ?_, ?_, ?_, ?_⟩
      · have entry : call.entry w = ((call.kind, a), middle) := bind_of_run run
        rw [firsts_of_new found a, List.mapM_cons, bind_of_run entry, bind_of_run makers]
        rfl
      · rw [serve, bind_of_run (new found a middle run)]
        dsimp only
        rw [bind_of_run served]
        rfl
      · rwa [longer]
      · rw [List.map_cons, List.map_cons, answers, List.lookup_append, found, List.lookup_cons_self,
          longer]
        rfl

/-- Calls that are made on a new cache, one after another. Of each kind the maker of the first call is
run, in the order of these calls, and nothing else happens to the world. All calls of a kind are
answered with the instance made there, and the cache holds exactly these instances, in their order and
without a gap. -/
theorem serve_calls (calls : List (Call κ σ α)) (w : σ) :
    ∃ made after results c,
      (calls.eraseDupsBy (·.kind == ·.kind)).mapM Call.entry w = (made, after) ∧
      (empty : Cache κ α).serve calls w = ((results, c), after) ∧
      results.map some = calls.map (fun call => made.lookup call.kind) ∧
      c.entries = made ∧ c.entries.map (·.1) = (calls.map (·.kind)).eraseDups ∧
      (c.entries.map (·.1)).Nodup ∧ c.size = (calls.map (·.kind)).eraseDups.length ∧
      (c.isEmpty = true ↔ calls = []) ∧ WellFormed c.chunks := by
  obtain ⟨made, after, results, c, makers, served, filled, answers⟩ :=
    serve_of_filled filled_empty calls w
  rw [firsts_nil] at makers
  have entries : c.entries = made := filled.entries_eq
  have kinds : c.entries.map (·.1) = (calls.map (·.kind)).eraseDups := by
    rw [entries, map_fst_of_mapM_entry makers, map_eraseDupsBy]
  have size : c.size = (calls.map (·.kind)).eraseDups.length := by
    rw [Cache.size, ← kinds, List.length_map]
  refine ⟨made, after, results, c, makers, served, answers, entries, kinds, ?_, size, ?_,
    filled.wellFormed⟩
  · rw [kinds]
    exact nodup_eraseDups _
  · rw [isEmpty, size, beq_iff_eq, List.length_eq_zero_iff]
    cases calls with
    | nil => simp
    | cons call calls => simp [List.eraseDups_cons]

end Served

/-- Eighteen kinds, which need a second chunk, and two calls for kinds that are there already. The
world is the list of the kinds of which an instance has been made. -/
theorem serve_calls_eighteen :
    let calls : List (Call Nat (List Nat) Nat) :=
      (List.range 18 ++ [17, 0]).map fun kind => ⟨kind, fun w => (100 + kind, w ++ [kind])⟩
    ∃ results c, (empty : Cache Nat Nat).serve calls [] = ((results, c), List.range 18) ∧
      results = (List.range 18 ++ [17, 0]).map (100 + ·) ∧ c.size = 18 ∧ WellFormed c.chunks := by
  intro calls
  obtain ⟨made, after, results, c, makers, served, answers, _, _, _, size, _, wellFormed⟩ :=
    serve_calls calls []
  obtain ⟨rfl, rfl⟩ : made = (List.range 18).map (fun kind => (kind, 100 + kind)) ∧
      after = List.range 18 :=
    Prod.mk.inj (makers.symm.trans rfl)
  refine ⟨results, c, served, ?_, size, wellFormed⟩
  have same : results.map some = ((List.range 18 ++ [17, 0]).map (100 + ·)).map some :=
    answers.trans (by decide)
  exact List.map_injective_iff.2 (fun _ _ => Option.some.inj) same

end Cache

end Figment
