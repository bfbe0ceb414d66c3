import Herald.Store
import Mathlib.Algebra.BigOperators.Group.Finset.Piecewise
/-!
# Stores are finite maps

What operations do to a store and answer is what they do to a map from keys to
values, of which finitely many have one. `MapStep` says what that is, without
entries and their order: an update looks at the value of its key and sets that
key or nothing; a sweep comes by every key that has a value, once, and leaves
each the value its visit left. In which order it comes by is not said, and a
store may be swept in any (`Arrangement`). That every operation keeps to the
map is `mapStep`, and for runs from the empty store it is `mapRun`.
-/

namespace Herald

/-- An order to visit entries in: the same entries, in whatever sequence. -/
structure Arrangement (κ ν : Type) where
  arrange : List (κ × ν) → List (κ × ν)
  perm : ∀ l, (arrange l).Perm l

/-- An operation on a store. What looks at values is arbitrary, and a sweep may
go by what it has seen on its way. -/
inductive StoreCommand (κ ν σ : Type) where
  /-- An update of one key, decided by looking at its value. -/
  | upsertIf (k : κ) (choose : Option ν → Option ν)
  /-- The value of a key. -/
  | get (k : κ)
  /-- How many keys have a value. -/
  | size
  /-- Whether no key has one. -/
  | isEmpty
  /-- A visit to every entry, in some order. -/
  | sweep (order : Arrangement κ ν) (visit : σ → κ → ν → Option ν × σ) (start : σ)

/-- The answer to an operation on a store. -/
inductive StoreAnswer (ν σ : Type) where
  | written (b : Bool)
  | value (v : Option ν)
  | size (n : Nat)
  | isEmpty (b : Bool)
  /-- What a sweep has gathered. -/
  | swept (a : σ)

namespace Store

variable {κ ν σ : Type}

/-- The store with its entries in some order. -/
def arranged (s : Store κ ν) (order : Arrangement κ ν) : Store κ ν :=
  ⟨order.arrange s.entries, ((order.perm _).map Prod.fst).nodup_iff.2 s.keys_nodup⟩

/-- What the visits of a sweep leave of each entry, in order, and what they have
gathered. -/
def outcomes (visit : σ → κ → ν → Option ν × σ) : σ → List (κ × ν) → List (κ × Option ν) × σ
  | a, [] => ([], a)
  | a, (k, v) :: rest =>
    let (left, a') := visit a k v
    let (lefts, a'') := outcomes visit a' rest
    ((k, left) :: lefts, a'')

variable [DecidableEq κ]

/-- **One operation.** -/
def step (s : Store κ ν) : StoreCommand κ ν σ → StoreAnswer ν σ × Store κ ν
  | .upsertIf k choose =>
    let (b, s') := s.upsertIf k choose
    (.written b, s')
  | .get k => (.value (s.get? k), s)
  | .size => (.size s.size, s)
  | .isEmpty => (.isEmpty s.isEmpty, s)
  | .sweep order visit a =>
    let (s', a') := (s.arranged order).sweep visit a
    (.swept a', s')

/-- The store as operations in a row leave it. -/
def after (s : Store κ ν) : List (StoreCommand κ ν σ) → Store κ ν
  | [] => s
  | c :: cs => (s.step c).2.after cs

/-- What operations in a row are answered. -/
def answers (s : Store κ ν) : List (StoreCommand κ ν σ) → List (StoreAnswer ν σ)
  | [] => []
  | c :: cs => (s.step c).1 :: (s.step c).2.answers cs

/-! ## The map -/

/-- **What an operation does to a map**, and what it answers. -/
inductive MapStep (m : κ → Option ν) :
    StoreCommand κ ν σ → StoreAnswer ν σ → (κ → Option ν) → Prop
  /-- An update that answers the value of its key with a value sets the key to it,
  and no other key. -/
  | written {k : κ} {choose : Option ν → Option ν} {v : ν} (chosen : choose (m k) = some v) :
      MapStep m (.upsertIf k choose) (.written true) (Function.update m k (some v))
  /-- One that declines changes nothing. -/
  | declined {k : κ} {choose : Option ν → Option ν} (declined : choose (m k) = none) :
      MapStep m (.upsertIf k choose) (.written false) m
  /-- A look at a key. -/
  | get (k : κ) : MapStep m (.get k) (.value (m k)) m
  /-- The keys that have a value are counted, each once. -/
  | size {keys : Finset κ} (mem_keys : ∀ k, k ∈ keys ↔ m k ≠ none) :
      MapStep m .size (.size keys.card) m
  /-- There is none of them. -/
  | isEmpty {b : Bool} (eq_true_iff : b = true ↔ ∀ k, m k = none) :
      MapStep m .isEmpty (.isEmpty b) m
  /-- A sweep visits every key that has a value once, with its value, and leaves
  it what the visit left of it. The other keys stay without a value. -/
  | swept {m' : κ → Option ν} {order : Arrangement κ ν} {visit : σ → κ → ν → Option ν × σ}
      {a : σ} {visits : List (κ × ν)} (nodup : (visits.map Prod.fst).Nodup)
      (mem_visits : ∀ k v, (k, v) ∈ visits ↔ m k = some v)
      (visited : ∀ e ∈ (outcomes visit a visits).1, m' e.1 = e.2)
      (unvisited : ∀ k, m k = none → m' k = none) :
      MapStep m (.sweep order visit a) (.swept (outcomes visit a visits).2) m'

/-- **What operations in a row do to a map**, and what they answer. -/
inductive MapRun : (κ → Option ν) → List (StoreCommand κ ν σ) → List (StoreAnswer ν σ) →
    (κ → Option ν) → Prop
  | nil (m : κ → Option ν) : MapRun m [] [] m
  | cons {m m' m'' : κ → Option ν} {c : StoreCommand κ ν σ} {a : StoreAnswer ν σ}
      {cs : List (StoreCommand κ ν σ)} {as : List (StoreAnswer ν σ)} (first : MapStep m c a m')
      (rest : MapRun m' cs as m'') : MapRun m (c :: cs) (a :: as) m''

/-! ## Sweeps -/

section Sweeps

variable {visit : σ → κ → ν → Option ν × σ} {a : σ} {l : List (κ × ν)} {s : Store κ ν}

omit [DecidableEq κ] in
/-- A sweep comes by each entry once. -/
theorem map_fst_outcomes : (outcomes visit a l).1.map Prod.fst = l.map Prod.fst := by
  induction l generalizing a with
  | nil => rfl
  | cons e rest ih => simp only [outcomes, List.map_cons, ih]

omit [DecidableEq κ] in
/-- A sweep keeps what its visits leave, and gathers what they gather. -/
theorem sweepEntries_eq : sweepEntries visit a l
    = ((outcomes visit a l).1.filterMap fun e => e.2.map (e.1, ·), (outcomes visit a l).2) := by
  induction l generalizing a with
  | nil => rfl
  | cons e rest ih =>
    obtain ⟨k, v⟩ := e
    rcases hv : visit a k v with ⟨_ | v', a'⟩ <;> simp [sweepEntries, outcomes, hv, ih]

omit [DecidableEq κ] in
/-- The entries of a swept store. -/
theorem mem_entries_sweep {k : κ} {v : ν} :
    (k, v) ∈ (s.sweep visit a).1.entries ↔ (k, some v) ∈ (outcomes visit a s.entries).1 := by
  simp only [sweep, sweepEntries_eq, List.mem_filterMap, Option.map_eq_some_iff, Prod.mk.injEq]
  constructor
  · rintro ⟨⟨_, _⟩, hmem, _, rfl, rfl, rfl⟩
    exact hmem
  · exact fun hmem => ⟨(k, some v), hmem, v, rfl, rfl, rfl⟩

/-- **A key has the value its visit left.** -/
theorem get?_sweep_of_mem {e : κ × Option ν} (he : e ∈ (outcomes visit a s.entries).1) :
    (s.sweep visit a).1.get? e.1 = e.2 := by
  -- there is no other visit to its key
  have hunique : ∀ o, (e.1, o) ∈ (outcomes visit a s.entries).1 → o = e.2 := fun o ho => by
    have hnodup : ((outcomes visit a s.entries).1.map Prod.fst).Nodup := by
      rw [map_fst_outcomes]
      exact s.keys_nodup
    exact congrArg Prod.snd (List.inj_on_of_nodup_map hnodup ho he rfl)
  refine Option.ext fun v => ?_
  rw [get?_eq_some_iff, mem_entries_sweep]
  exact ⟨fun h => (hunique _ h).symm, fun h => h ▸ he⟩

/-- A key that has no value gets none. -/
theorem get?_sweep_of_none {k : κ} (h : s.get? k = none) : (s.sweep visit a).1.get? k = none := by
  refine lookup_eq_none fun hmem => ?_
  have hkeys := (keys_sweepEntries_sublist visit a s.entries).subset hmem
  obtain ⟨⟨k', v⟩, hentry, rfl⟩ := List.mem_map.1 hkeys
  rw [get?_eq_some_iff.2 hentry] at h
  nomatch h

/-- The order of the entries is not seen by a look at a key. -/
@[simp] theorem get?_arranged (s : Store κ ν) (order : Arrangement κ ν) (k : κ) :
    (s.arranged order).get? k = s.get? k :=
  Option.ext fun v => by
    rw [get?_eq_some_iff, get?_eq_some_iff]
    exact (order.perm s.entries).mem_iff

omit [DecidableEq κ] in
/-- Visits that judge each entry by itself, whatever they gather. -/
theorem outcomes_of_each (keep : κ → ν → Option ν) (gather : σ → κ → ν → σ) (a : σ)
    (l : List (κ × ν)) :
    (outcomes (fun a k v => (keep k v, gather a k v)) a l).1
      = l.map fun e => (e.1, keep e.1 e.2) := by
  induction l generalizing a with
  | nil => rfl
  | cons e rest ih => simp only [outcomes, ih, List.map_cons]

/-- **A sweep that judges each entry by itself** goes by the value of each key
alone. -/
theorem get?_sweep_of_each (keep : κ → ν → Option ν) (gather : σ → κ → ν → σ) (s : Store κ ν)
    (a : σ) (k : κ) :
    (s.sweep (fun a k v => (keep k v, gather a k v)) a).1.get? k = (s.get? k).bind (keep k) := by
  cases hk : s.get? k with
  | none => exact get?_sweep_of_none hk
  | some v =>
    have hvisit : (k, keep k v) ∈
        (outcomes (fun a k v => (keep k v, gather a k v)) a s.entries).1 := by
      rw [outcomes_of_each]
      exact List.mem_map_of_mem (f := fun e => (e.1, keep e.1 e.2)) (get?_eq_some_iff.1 hk)
    exact get?_sweep_of_mem hvisit

end Sweeps

/-! ## Operations and runs -/

variable {s : Store κ ν}

/-- The keys of a store are those with a value. -/
theorem mem_keys_iff {k : κ} : k ∈ s.keys ↔ s.get? k ≠ none := by
  rw [Option.ne_none_iff_exists']
  simp [keys, get?_eq_some_iff]

/-- A store is empty where no key has a value. -/
theorem isEmpty_iff_forall : s.isEmpty = true ↔ ∀ k, s.get? k = none := by
  have hkeys : s.isEmpty = true ↔ s.keys = [] := by simp [isEmpty, keys]
  rw [hkeys, List.eq_nil_iff_forall_not_mem]
  exact forall_congr' fun k => by rw [mem_keys_iff, not_not]

/-- **Every operation keeps to the map.** -/
theorem mapStep (s : Store κ ν) (c : StoreCommand κ ν σ) :
    MapStep s.get? c (s.step c).1 (s.step c).2.get? := by
  cases c with
  | upsertIf k choose =>
    simp only [step, upsertIf]
    rcases hchoose : choose (s.get? k) with _ | v
    · exact .declined hchoose
    · have hput : (s.put k v).get? = Function.update s.get? k (some v) := by
        funext x
        simp [get?_put, Function.update_apply]
      simpa [hput] using MapStep.written hchoose
  | get k => exact .get k
  | size =>
    have hsize : s.size = s.keys.toFinset.card := by
      rw [List.toFinset_card_of_nodup (l := s.keys) s.keys_nodup, keys, List.length_map, size]
    simp only [step, hsize]
    exact .size fun k => by rw [List.mem_toFinset, mem_keys_iff]
  | isEmpty => exact .isEmpty isEmpty_iff_forall
  | sweep order visit a =>
    have hvisits : ∀ k v, (k, v) ∈ (s.arranged order).entries ↔ s.get? k = some v := fun k v => by
      rw [← get?_eq_some_iff, get?_arranged]
    have hswept : (s.step (.sweep order visit a)).1
        = .swept (outcomes visit a (s.arranged order).entries).2 := by
      simp only [step, sweep, sweepEntries_eq]
    rw [hswept]
    exact .swept (s.arranged order).keys_nodup hvisits (fun e he => get?_sweep_of_mem he)
      fun k hk => get?_sweep_of_none ((get?_arranged s order k).trans hk)

/-- **Every run keeps to the map.** -/
theorem mapRun (s : Store κ ν) (cs : List (StoreCommand κ ν σ)) :
    MapRun s.get? cs (s.answers cs) (s.after cs).get? := by
  induction cs generalizing s with
  | nil => exact .nil _
  | cons c cs ih => exact .cons (s.mapStep c) (ih (s.step c).2)

end Store

/-! ## Updates of several callers -/

/-- An update of one key by a caller. -/
structure StoreUpdate (ι κ ν : Type) where
  caller : ι
  key : κ
  choose : Option ν → Option ν

/-- A caller adds an amount to the number of a key, which is zero at first. -/
def StoreUpdate.add {ι κ M : Type} [AddCommMonoid M] (i : ι) (k : κ) (n : M) :
    StoreUpdate ι κ M := ⟨i, k, fun v => some (v.getD 0 + n)⟩

namespace Store

variable {ι κ ν : Type} [DecidableEq κ]

/-- The store after updates of callers, in the order in which they come one after
the other. -/
def updated (s : Store κ ν) (us : List (StoreUpdate ι κ ν)) : Store κ ν :=
  us.foldl (fun s u => (s.upsertIf u.key u.choose).2) s

/-- What an update makes of a key. -/
theorem get?_upsertIf (s : Store κ ν) (k x : κ) (choose : Option ν → Option ν) :
    (s.upsertIf k choose).2.get? x
      = if k = x then (choose (s.get? x)).or (s.get? x) else s.get? x := by
  unfold upsertIf
  by_cases hk : k = x
  · subst hk
    rcases hchoose : choose (s.get? k) with _ | v <;> simp [get?_put]
  · rcases choose (s.get? k) with _ | v <;> simp [get?_put, hk, Ne.symm hk]

/-- **Every update of a key works on what the one before it left.** -/
theorem get?_updated (s : Store κ ν) (us : List (StoreUpdate ι κ ν)) (k : κ) :
    (s.updated us).get? k
      = (us.filter fun u => u.key = k).foldl (fun v u => (u.choose v).or v) (s.get? k) := by
  induction us generalizing s with
  | nil => rfl
  | cons u us ih =>
    rw [updated, List.foldl_cons, ← updated, ih, get?_upsertIf]
    by_cases hk : u.key = k <;> simp [hk]

/-- **No amount is lost**: a key has what all callers have added to it, each with
all its amounts, in whatever order they came. -/
theorem get?_updated_add {M : Type} [AddCommMonoid M] [Fintype ι] [DecidableEq ι]
    (s : Store κ M) (us : List (ι × κ × M)) (k : κ) :
    ((s.updated (us.map fun u => .add u.1 u.2.1 u.2.2)).get? k).getD 0
      = (s.get? k).getD 0
        + ∑ i, ((us.filter fun u => u.1 = i ∧ u.2.1 = k).map fun u => u.2.2).sum := by
  induction us generalizing s with
  | nil => simp [updated]
  | cons u us ih =>
    obtain ⟨j, x, n⟩ := u
    rw [List.map_cons, updated, List.foldl_cons, ← updated, ih, get?_upsertIf]
    -- the amount is one of its caller's, if it goes to this key
    have hcaller : ∀ i, ((((j, x, n) :: us).filter fun u => u.1 = i ∧ u.2.1 = k).map
          fun u => u.2.2).sum
        = (if j = i then if x = k then n else 0 else 0)
          + ((us.filter fun u => u.1 = i ∧ u.2.1 = k).map fun u => u.2.2).sum := fun i => by
      by_cases hj : j = i <;> by_cases hx : x = k <;> simp [hj, hx]
    simp only [hcaller, Finset.sum_add_distrib, Finset.sum_ite_eq, Finset.mem_univ, if_true,
      ← add_assoc]
    by_cases hx : x = k <;> simp [StoreUpdate.add, hx]

end Store

/-- **Stores are finite maps.** Whatever operations are made in a row on a store that
was empty, with whatever closures and in whatever orders of visiting, it answers and
ends as a map from keys to values does. A sweep that judges each entry by itself leaves
the same of every key in every order. And where callers' updates come one after the
other in any order, each works on what the one before it left of its key, so that of
amounts that are added, numbers or others, none is lost. -/
theorem stores_are_finite_maps {κ ν σ ι : Type} [DecidableEq κ] [Fintype ι] [DecidableEq ι]
    (cs : List (StoreCommand κ ν σ)) :
    Store.MapRun (fun _ => none) cs (Store.empty.answers cs) (Store.empty.after cs).get? ∧
      (∀ (s : Store κ ν) (order : Arrangement κ ν) (keep : κ → ν → Option ν)
          (gather : σ → κ → ν → σ) (a : σ) (k : κ),
        (s.step (.sweep order (fun a k v => (keep k v, gather a k v)) a)).2.get? k
          = (s.get? k).bind (keep k)) ∧
      (∀ (s : Store κ ν) (us : List (StoreUpdate ι κ ν)) (k : κ),
        (s.updated us).get? k
          = (us.filter fun u => u.key = k).foldl (fun v u => (u.choose v).or v) (s.get? k)) ∧
      ∀ (M : Type) [AddCommMonoid M] (s : Store κ M) (us : List (ι × κ × M)) (k : κ),
        ((s.updated (us.map fun u => .add u.1 u.2.1 u.2.2)).get? k).getD 0
          = (s.get? k).getD 0
            + ∑ i, ((us.filter fun u => u.1 = i ∧ u.2.1 = k).map fun u => u.2.2).sum := by
  refine ⟨Store.mapRun .empty cs, fun s order keep gather a k => ?_, Store.get?_updated,
    fun M _ => Store.get?_updated_add⟩
  rw [← Store.get?_arranged s order]
  exact Store.get?_sweep_of_each keep gather (s.arranged order) a k

end Herald
