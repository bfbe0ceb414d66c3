/-!
# Keyed stores

A store keeps at most one value for a key. It is changed in two ways only: by
an update of one key, decided by looking at that key's value, and by a sweep
that visits every entry and keeps or drops it. What a reader can see of it is
`get?` and `size`; each operation's lemma says what it does to `get?`. The
order of the entries is an accident of history, and no answer shows it.
-/

namespace Herald

/-- A finite map: entries with pairwise different keys. -/
structure Store (κ ν : Type) where
  entries : List (κ × ν)
  keys_nodup : (entries.map Prod.fst).Nodup

namespace Store

variable {κ ν σ : Type}

/-- The store without entries. -/
def empty : Store κ ν := ⟨[], List.nodup_nil⟩

/-- The keys that have a value. -/
def keys (s : Store κ ν) : List κ := s.entries.map Prod.fst

/-- How many keys have a value. -/
def size (s : Store κ ν) : Nat := s.entries.length

/-- Whether no key has a value. -/
def isEmpty (s : Store κ ν) : Bool := s.entries.isEmpty

/-- A store is empty when its size is zero. -/
theorem isEmpty_iff {s : Store κ ν} : s.isEmpty = true ↔ s.size = 0 := by
  simp [isEmpty, size]

/-! ## Lookup -/

/-- The value of the first entry with a key. -/
def lookup [DecidableEq κ] (k : κ) : List (κ × ν) → Option ν
  | [] => none
  | (k', v) :: rest => if k' = k then some v else lookup k rest

/-- **The view of a store**: the value of each key. -/
def get? [DecidableEq κ] (s : Store κ ν) (k : κ) : Option ν := lookup k s.entries

/-- The empty store has no value for any key. -/
@[simp] theorem get?_empty [DecidableEq κ] (k : κ) : (empty : Store κ ν).get? k = none := rfl

/-- A key without an entry has no value. -/
theorem lookup_eq_none [DecidableEq κ] {k : κ} {l : List (κ × ν)}
    (h : k ∉ l.map Prod.fst) : lookup k l = none := by
  induction l with
  | nil => rfl
  | cons e rest ih =>
    obtain ⟨k', v⟩ := e
    simp only [List.map_cons, List.mem_cons, not_or] at h
    rw [lookup, if_neg (Ne.symm h.1), ih h.2]

/-- With different keys, the value found is the value of the entry. -/
theorem lookup_eq_some_iff [DecidableEq κ] {k : κ} {v : ν} {l : List (κ × ν)}
    (hl : (l.map Prod.fst).Nodup) : lookup k l = some v ↔ (k, v) ∈ l := by
  induction l with
  | nil => simp [lookup]
  | cons e rest ih =>
    obtain ⟨k', v'⟩ := e
    simp only [List.map_cons, List.nodup_cons] at hl
    by_cases hk : k' = k
    · subst hk
      have hm : (k', v) ∉ rest := fun h => hl.1 (List.mem_map_of_mem (f := Prod.fst) h)
      simp [lookup, hm, eq_comm]
    · have hk' : ¬k = k' := fun h => hk h.symm
      simp [lookup, hk, hk', ih hl.2]

/-- The entries are exactly the keys with their values. -/
theorem get?_eq_some_iff [DecidableEq κ] {s : Store κ ν} {k : κ} {v : ν} :
    s.get? k = some v ↔ (k, v) ∈ s.entries := lookup_eq_some_iff s.keys_nodup

/-! ## Updating one key -/

/-- Puts a value in the place of a key's entry, or behind all entries. -/
def putEntry [DecidableEq κ] (k : κ) (v : ν) : List (κ × ν) → List (κ × ν)
  | [] => [(k, v)]
  | (k', v') :: rest => if k' = k then (k, v) :: rest else (k', v') :: putEntry k v rest

/-- A put adds no key but its own. -/
theorem mem_keys_putEntry [DecidableEq κ] {k x : κ} {v : ν} {l : List (κ × ν)} :
    x ∈ (putEntry k v l).map Prod.fst ↔ x = k ∨ x ∈ l.map Prod.fst := by
  induction l with
  | nil => simp [putEntry]
  | cons e rest ih =>
    obtain ⟨k', v'⟩ := e
    by_cases hk : k' = k
    · subst hk
      simp [putEntry]
    · simp only [putEntry, if_neg hk, List.map_cons, List.mem_cons, ih]
      constructor <;> rintro (h | h | h) <;> simp [h]

/-- Keys stay different under a put. -/
theorem nodup_putEntry [DecidableEq κ] {k : κ} {v : ν} {l : List (κ × ν)}
    (hl : (l.map Prod.fst).Nodup) : ((putEntry k v l).map Prod.fst).Nodup := by
  induction l with
  | nil => simp [putEntry]
  | cons e rest ih =>
    obtain ⟨k', v'⟩ := e
    simp only [List.map_cons, List.nodup_cons] at hl
    by_cases hk : k' = k
    · subst hk
      simpa [putEntry] using hl
    · simp only [putEntry, if_neg hk, List.map_cons, List.nodup_cons, mem_keys_putEntry]
      exact ⟨fun h => h.elim hk hl.1, ih hl.2⟩

/-- Gives a key a value. -/
def put [DecidableEq κ] (s : Store κ ν) (k : κ) (v : ν) : Store κ ν :=
  ⟨putEntry k v s.entries, nodup_putEntry s.keys_nodup⟩

/-- **A put sets its key and no other.** -/
theorem get?_put [DecidableEq κ] (s : Store κ ν) (k x : κ) (v : ν) :
    (s.put k v).get? x = if x = k then some v else s.get? x := by
  simp only [get?, put]
  induction s.entries with
  | nil => simp [putEntry, lookup, eq_comm]
  | cons e rest ih =>
    obtain ⟨k', v'⟩ := e
    by_cases hk : k' = k
    · subst hk
      by_cases hx : k' = x
      · simp [putEntry, lookup, hx]
      · have hx' : ¬x = k' := fun h => hx h.symm
        simp [putEntry, lookup, hx, hx']
    · by_cases hx : k' = x
      · subst hx
        simp [putEntry, lookup, hk]
      · simp only [putEntry, if_neg hk, lookup, if_neg hx]
        exact ih

/-- A put makes one more entry where the key has none. -/
theorem length_putEntry [DecidableEq κ] (k : κ) (v : ν) (l : List (κ × ν)) :
    (putEntry k v l).length = l.length + if (lookup k l).isNone then 1 else 0 := by
  induction l with
  | nil => rfl
  | cons e rest ih =>
    obtain ⟨k', v'⟩ := e
    by_cases hk : k' = k
    · simp [putEntry, lookup, hk]
    · simp only [putEntry, if_neg hk, lookup, List.length_cons, ih]
      omega

/-- The size grows by the keys that are new. -/
theorem size_put [DecidableEq κ] (s : Store κ ν) (k : κ) (v : ν) :
    (s.put k v).size = s.size + if (s.get? k).isNone then 1 else 0 :=
  length_putEntry k v s.entries

/-- **An update of one key.** `choose` looks at the key's value: a value it
answers with is put, and without one the store stays as it is. The answer
tells whether something was put. -/
def upsertIf [DecidableEq κ] (s : Store κ ν) (k : κ) (choose : Option ν → Option ν) :
    Bool × Store κ ν :=
  match choose (s.get? k) with
  | some v => (true, s.put k v)
  | none => (false, s)

/-- **An update of one key that may fail.** `choose` looks at the key's value and at
something else next to the store, which it can change. The store is written to after
`choose` has answered, and not at all where it fails. -/
def tryUpsertIf [DecidableEq κ] {ε : Type} (s : Store κ ν) (k : κ) (x : σ)
    (choose : Option ν → σ → Except ε (Option ν) × σ) : Except ε Bool × Store κ ν × σ :=
  match choose (s.get? k) x with
  | (.ok (some v), x') => (.ok true, s.put k v, x')
  | (.ok none, x') => (.ok false, s, x')
  | (.error e, x') => (.error e, s, x')

/-- An update that does not fail is one that cannot. -/
theorem tryUpsertIf_of_ok [DecidableEq κ] {ε : Type} {s : Store κ ν} {k : κ} {x x' : σ}
    {choose : Option ν → σ → Except ε (Option ν) × σ} (choose' : Option ν → Option ν)
    (h : choose (s.get? k) x = (.ok (choose' (s.get? k)), x')) :
    s.tryUpsertIf k x choose = (.ok (s.upsertIf k choose').1, (s.upsertIf k choose').2, x') := by
  unfold tryUpsertIf upsertIf
  rw [h]
  cases choose' (s.get? k) <;> rfl

/-- One that fails leaves the store as it was. -/
theorem tryUpsertIf_of_error [DecidableEq κ] {ε : Type} {s : Store κ ν} {k : κ} {x x' : σ}
    {choose : Option ν → σ → Except ε (Option ν) × σ} {e : ε}
    (h : choose (s.get? k) x = (.error e, x')) :
    s.tryUpsertIf k x choose = (.error e, s, x') := by
  simp only [tryUpsertIf, h]

/-! ## Sweeps -/

/-- One visit to every entry, in order. A visit is told what the visits
before it have gathered, and answers with the value to keep, if any. -/
def sweepEntries (visit : σ → κ → ν → Option ν × σ) : σ → List (κ × ν) → List (κ × ν) × σ
  | a, [] => ([], a)
  | a, (k, v) :: rest =>
    let (kept, a') := visit a k v
    let (rest', a'') := sweepEntries visit a' rest
    match kept with
    | some v' => ((k, v') :: rest', a'')
    | none => (rest', a'')

/-- A sweep only drops keys. -/
theorem keys_sweepEntries_sublist (visit : σ → κ → ν → Option ν × σ) (a : σ)
    (l : List (κ × ν)) :
    ((sweepEntries visit a l).1.map Prod.fst).Sublist (l.map Prod.fst) := by
  induction l generalizing a with
  | nil => simp [sweepEntries]
  | cons e rest ih =>
    obtain ⟨k, v⟩ := e
    simp only [sweepEntries]
    split
    · exact (ih _).cons_cons k
    · exact (ih _).cons k

/-- A sweep of the whole store. -/
def sweep (s : Store κ ν) (visit : σ → κ → ν → Option ν × σ) (a : σ) : Store κ ν × σ :=
  (⟨(sweepEntries visit a s.entries).1,
    s.keys_nodup.sublist (keys_sweepEntries_sublist visit a s.entries)⟩,
    (sweepEntries visit a s.entries).2)

/-- A sweep that judges each entry by itself: the entries for which `keep`
has a value stay, with that value. -/
def retain (s : Store κ ν) (keep : κ → ν → Option ν) : Store κ ν :=
  (s.sweep (fun (_ : Unit) k v => (keep k v, ())) ()).1

/-- A sweep that judges each entry by itself is a filter of the entries. -/
theorem entries_retain (s : Store κ ν) (keep : κ → ν → Option ν) :
    (s.retain keep).entries = s.entries.filterMap fun e => (keep e.1 e.2).map (e.1, ·) := by
  simp only [retain, sweep]
  induction s.entries with
  | nil => rfl
  | cons e rest ih =>
    obtain ⟨k, v⟩ := e
    simp only [sweepEntries]
    cases hk : keep k v <;> simp [hk, ih]

/-- **What a sweep leaves of a key** is decided by that key's value alone. -/
theorem get?_retain [DecidableEq κ] (s : Store κ ν) (keep : κ → ν → Option ν) (x : κ) :
    (s.retain keep).get? x = (s.get? x).bind (keep x) := by
  simp only [get?, entries_retain]
  have hl := s.keys_nodup
  revert hl
  induction s.entries with
  | nil => intro _; rfl
  | cons e rest ih =>
    obtain ⟨k, v⟩ := e
    intro hl
    simp only [List.map_cons, List.nodup_cons] at hl
    have ih' := ih hl.2
    by_cases hx : k = x
    · subst hx
      cases hk : keep k v with
      | none =>
        simp only [List.filterMap_cons, hk, Option.map_none, ih', lookup, if_true,
          Option.bind_some]
        rw [lookup_eq_none hl.1]
        rfl
      | some v' => simp [lookup, hk]
    · cases hk : keep k v with
      | none => simp [lookup, hk, hx, ih']
      | some v' => simp [lookup, hk, hx, ih']

/-- The visit a sweep pays to one key: the key's entry, if there is one, is
kept or dropped, and no other is looked at. -/
def retainAt [DecidableEq κ] (s : Store κ ν) (k : κ) (keep : ν → Bool) : Store κ ν :=
  s.retain fun k' v => if k' = k then (if keep v then some v else none) else some v

/-- A visit to one key drops that key or nothing. -/
theorem get?_retainAt [DecidableEq κ] (s : Store κ ν) (k x : κ) (keep : ν → Bool) :
    (s.retainAt k keep).get? x
      = if x = k then (s.get? x).filter keep else s.get? x := by
  rw [retainAt, get?_retain]
  by_cases hx : x = k
  · subst hx
    cases s.get? x with
    | none => simp
    | some v => cases hv : keep v <;> simp [hv, Option.filter]
  · cases s.get? x <;> simp [hx]

end Store

end Herald
