import Herald.Proofs.Delivery.Ledger
import Mathlib.Data.List.Nodup
/-!
# Every send is counted once

`Balanced` is what holds of a service and the ledger of its run: the open
entries are the pending sends, each counter is the number of entries that have
ended its way, and every ending is due to what the ledger and the run say.
Each thing a step can do to the sends keeps it, so a send that has ended was
counted once, one that has not was never counted, and the two together are all
that was handed over.
-/

namespace Herald

namespace Entry

variable {endpoint : String} {cs cs' : List Command} {e : Entry}

/-- **What the run says of an entry.** An ending is due to the outcome, or to
the shutdown or the send's token, and the outcome is one that came in for this
send, or the one it was waited for with. -/
structure Accounted (endpoint : String) (cs : List Command) (e : Entry) : Prop where
  due : ∀ x, e.ending = some x → x.Due endpoint e.answer
    (.shutDown ∈ cs ∨ ∃ token, e.token = some token ∧ .cancel token ∈ cs)
  delivered : ∀ o k, e.answer = some o → e.number = some k → .deliver k o ∈ cs
  awaited : ∀ o, e.answer = some o → e.number = none → .send e.notice o ∈ cs

/-- What a run says, a longer run says too. -/
theorem Accounted.mono (h : e.Accounted endpoint cs) (hsub : cs ⊆ cs') :
    e.Accounted endpoint cs' where
  due x hx := (h.due x hx).imp fun hup => hup.imp (fun hs => hsub hs)
    fun ⟨token, ht, hc⟩ => ⟨token, ht, hsub hc⟩
  delivered o k ho hk := hsub (h.delivered o k ho hk)
  awaited o ho hk := hsub (h.awaited o ho hk)

/-- An entry ends, if it is the open one of a send. -/
def close (number : Nat) (x : Ending) (e : Entry) : Entry :=
  if e.isOpen ∧ e.number = some number then { e with ending := some x } else e

/-- An entry gets an outcome, if it is the open one of a send. -/
def take (number : Nat) (o : Outcome) (e : Entry) : Entry :=
  if e.isOpen ∧ e.number = some number then { e with answer := some o } else e

/-- An outcome ends nothing. -/
@[simp] theorem ending_take (number : Nat) (o : Outcome) (e : Entry) :
    (e.take number o).ending = e.ending := by
  simp only [take]
  split <;> rfl

/-- An outcome leaves open what is open. -/
theorem filter_isOpen_take (l : List Entry) (number : Nat) (o : Outcome) :
    (l.map (take number o)).filter isOpen = (l.filter isOpen).map (take number o) := by
  rw [List.filter_map]
  congr 1
  exact List.filter_congr fun e _ => by simp [isOpen]

/-- An outcome that comes in counts no ending. -/
theorem countP_take (l : List Entry) (number : Nat) (o : Outcome) (x : Ending) :
    (l.map (take number o)).countP (fun e => e.ending = some x)
      = l.countP fun e => e.ending = some x := by
  rw [List.countP_map]
  exact List.countP_congr fun e _ => by simp

/-- Closing takes the entries of a send out of the open ones. -/
theorem filter_isOpen_close (l : List Entry) (number : Nat) (x : Ending) :
    (l.map (close number x)).filter isOpen
      = (l.filter isOpen).filter fun e => e.number ≠ some number := by
  induction l with
  | nil => rfl
  | cons e l ih =>
    by_cases ho : e.isOpen = true <;> by_cases hn : e.number = some number <;>
      simp_all [close, isOpen]

/-- Closing ends the open entries of a send, in the way it says. -/
theorem countP_close (l : List Entry) (number : Nat) (x y : Ending) :
    (l.map (close number x)).countP (fun e => e.ending = some y)
      = l.countP (fun e => e.ending = some y)
        + if y = x then (l.filter isOpen).countP (fun e => e.number = some number) else 0 := by
  induction l with
  | nil => simp
  | cons e l ih =>
    rw [List.map_cons, List.countP_cons, List.countP_cons, ih]
    by_cases hc : e.isOpen = true ∧ e.number = some number
    · -- the entry is closed, so it had no ending before
      obtain ⟨ho, hn⟩ := hc
      have hnone : e.ending = none := by simpa [isOpen] using ho
      by_cases hy : y = x <;> simp [close, ho, hn, hnone, hy, eq_comm (a := x)]
      omega
    · have hclose : e.close number x = e := if_neg hc
      have hskip : ((e :: l).filter isOpen).countP (fun e => e.number = some number)
          = (l.filter isOpen).countP fun e => e.number = some number := by
        by_cases ho : e.isOpen = true
        · have hn : e.number ≠ some number := fun hn => hc ⟨ho, hn⟩
          simp [ho, hn]
        · simp [ho]
      rw [hclose, hskip]
      omega

/-- **Every entry is open or has ended in one of the three ways.** -/
theorem length_eq_countP (l : List Entry) :
    l.length = l.countP (fun e => e.ending = some .sent)
      + l.countP (fun e => e.ending = some .failed)
      + l.countP (fun e => e.ending = some .cancelled) + (l.filter isOpen).length := by
  induction l with
  | nil => rfl
  | cons e l ih =>
    rcases he : e.ending with _ | _ | _ | _ <;> simp [isOpen, he, ih] <;> omega

end Entry

namespace Service

variable {s s' : Service} {c : Command} {cs : List Command} {l : List Entry} {x : Ending}

/-! ## Pending sends -/

/-- A send is pending under a number if there is one of that number. -/
theorem isSome_pending? {k : Nat} :
    (s.pending? k).isSome = true ↔ k ∈ s.pending.map Send.number := by
  simp [pending?, List.find?_isSome]

/-- What is found under a number is pending. -/
theorem mem_of_pending? {k : Nat} {p : Send} (h : s.pending? k = some p) : p ∈ s.pending :=
  List.mem_of_find?_eq_some h

/-- A change of a stage changes no number. -/
theorem numbers_setStage (s : Service) (k : Nat) (stage : Stage) :
    (s.setStage k stage).map Send.number = s.pending.map Send.number := by
  rw [setStage, List.map_map]
  refine List.map_congr_left fun p _ => ?_
  simp only [Function.comp]
  split <;> rfl

/-- The numbers that are left when a send is taken out. -/
theorem numbers_without (s : Service) (k : Nat) :
    (s.without k).map Send.number = (s.pending.map Send.number).filter (· ≠ k) := by
  rw [without, List.filter_map]
  congr 1
  exact List.filter_congr fun p _ => Bool.eq_iff_iff.2 (by simp)

/-- The counter that has moved, where one has. -/
theorem moved_of_counts (h : s.Counts s' x) : s.moved s' = some x := by
  have hne : ∀ n : UInt64, n + 1 ≠ n := fun n => by simp
  cases x <;> simp [moved, h _, hne]

/-! ## The invariant -/

/-- **What holds of a service and the ledger of its run.** -/
structure Balanced (s : Service) (cs : List Command) (l : List Entry) : Prop where
  /-- The open entries are those of the pending sends. -/
  pending : l.filter Entry.isOpen = s.pending.map .ofSend
  numbers : (s.pending.map Send.number).Nodup
  below : ∀ k ∈ s.pending.map Send.number, k < s.handedOver
  /-- Each counter counts the entries of its ending. -/
  tally : ∀ x, s.tally x = .ofNat (l.countP fun e => e.ending = some x)
  accounted : ∀ e ∈ l, e.Accounted s.dispatcher.endpoint cs

namespace Balanced

/-- An open entry is that of a pending send. -/
theorem exists_pending (h : s.Balanced cs l) {e : Entry} (he : e ∈ l) (ho : e.isOpen = true) :
    ∃ p ∈ s.pending, .ofSend p = e := by
  have hmem : e ∈ l.filter Entry.isOpen := List.mem_filter.2 ⟨he, ho⟩
  rw [h.pending] at hmem
  exact List.mem_map.1 hmem

/-- Only open entries are touched, and each of them has a number under which a
send is pending. -/
theorem map_follow (h : s.Balanced cs l) {f : Entry → Entry}
    (hended : ∀ e : Entry, e.isOpen = false → f e = e)
    (hopen : ∀ p ∈ s.pending, (Entry.ofSend p).follow s s' c = f (.ofSend p)) :
    l.map (Entry.follow s s' c) = l.map f := by
  refine List.map_congr_left fun e he => ?_
  by_cases ho : e.isOpen = true
  · obtain ⟨p, hp, rfl⟩ := h.exists_pending he ho
    exact hopen p hp
  · have hnone : e.ending ≠ none := by simpa [Entry.isOpen] using ho
    rw [Entry.follow_of_ended hnone, hended e (by simpa using ho)]

/-- Where no send ends and none gets an outcome, no entry changes. -/
theorem map_follow_of_kept (h : s.Balanced cs l)
    (hkept : s.pending.map Send.number ⊆ s'.pending.map Send.number)
    (harr : s.arrival c = fun _ => none) : l.map (Entry.follow s s' c) = l := by
  have hid : l.map (Entry.follow s s' c) = l.map id := by
    refine h.map_follow (fun _ _ => rfl) fun p hp => ?_
    have hsome := isSome_pending?.2 (hkept (List.mem_map_of_mem hp))
    rw [Entry.follow_ofSend, if_pos hsome, harr]
    rfl
  rw [hid, List.map_id]

/-- Where a send gets an outcome, its entry does. -/
theorem map_follow_of_answered (h : s.Balanced cs l) {k : Nat} {o : Outcome}
    (hkept : s.pending.map Send.number ⊆ s'.pending.map Send.number)
    (harr : s.arrival c = fun n => if n = k then some o else none) :
    l.map (Entry.follow s s' c) = l.map (Entry.take k o) := by
  refine h.map_follow (fun e he => by simp [Entry.take, he]) fun p hp => ?_
  have hsome := isSome_pending?.2 (hkept (List.mem_map_of_mem hp))
  rw [Entry.follow_ofSend, if_pos hsome, harr]
  by_cases hk : p.number = k <;> simp [Entry.take, Entry.isOpen, Entry.ofSend, hk]

/-- Where a send ends, its entry does, with the ending that was counted. -/
theorem map_follow_of_ended (h : s.Balanced cs l) {k : Nat}
    (hleft : s'.pending = s.without k) (hcounts : s.Counts s' x)
    (harr : s.arrival c = fun _ => none) :
    l.map (Entry.follow s s' c) = l.map (Entry.close k x) := by
  refine h.map_follow (fun e he => by simp [Entry.close, he]) fun p hp => ?_
  have hmem : (s'.pending? p.number).isSome = true ↔ p.number ≠ k := by
    rw [isSome_pending?, hleft, numbers_without, List.mem_filter]
    simpa using fun _ => ⟨p, hp, rfl⟩
  rw [Entry.follow_ofSend, harr]
  -- the send that ends is gone, and the others are still there
  by_cases hk : p.number = k
  · have hgone : ¬ (s'.pending? p.number).isSome = true := mt hmem.1 (by simp [hk])
    rw [if_neg hgone, moved_of_counts hcounts]
    simp [Entry.close, Entry.isOpen, Entry.ofSend, hk]
  · rw [if_pos (hmem.2 hk)]
    simp [Entry.close, Entry.isOpen, Entry.ofSend, hk]

/-! ## What keeps it -/

/-- A service that has not done anything has an empty ledger. -/
theorem begin_nil (settings : Settings) (product endpoint : String) (k : Clock) :
    (begin (.ofSettings settings product endpoint) k).Balanced [] [] where
  pending := rfl
  numbers := .nil
  below _ hk := nomatch hk
  tally x := by cases x <;> rfl
  accounted _ he := nomatch he

/-- A step after which the pending sends have the same entries keeps it. -/
theorem kept (h : s.Balanced cs l)
    (hp : s'.pending.map Entry.ofSend = s.pending.map Entry.ofSend)
    (hn : s'.pending.map Send.number = s.pending.map Send.number)
    (hh : s'.handedOver = s.handedOver) (ht : s'.tally = s.tally)
    (he : s'.dispatcher.endpoint = s.dispatcher.endpoint) (c : Command) :
    s'.Balanced (cs ++ [c]) l where
  pending := by rw [hp, h.pending]
  numbers := by rw [hn]; exact h.numbers
  below := by rw [hn, hh]; exact h.below
  tally := by rw [ht]; exact h.tally
  accounted e hmem := by
    rw [he]
    exact (h.accounted e hmem).mono (List.subset_append_left cs [c])

/-- A step that hands over a send that ends at once keeps it. -/
theorem entered (h : s.Balanced cs l) (hp : s'.pending = s.pending)
    (hh : s'.handedOver = s.handedOver) (hcounts : s.Counts s' x)
    (he : s'.dispatcher.endpoint = s.dispatcher.endpoint) {e : Entry} (hx : e.ending = some x)
    (hacc : e.Accounted s.dispatcher.endpoint (cs ++ [c])) :
    s'.Balanced (cs ++ [c]) (l ++ [e]) where
  pending := by simp [hp, h.pending, Entry.isOpen, hx]
  numbers := by rw [hp]; exact h.numbers
  below := by rw [hp, hh]; exact h.below
  tally y := by
    rw [hcounts y, h.tally y, List.countP_append]
    by_cases hy : y = x
    · simp [hx, hy]
    · simp [hx, hy, Ne.symm hy]
  accounted e' hmem := by
    rw [he]
    rcases List.mem_append.1 hmem with hl | hl
    · exact (h.accounted e' hl).mono (List.subset_append_left cs [c])
    · exact List.mem_singleton.1 hl ▸ hacc

/-- A step that hands over a send that goes to the pending ones keeps it. -/
theorem handed (h : s.Balanced cs l) {n : Notice} {token : Option String}
    (hp : s'.pending = s.pending ++ [⟨s.handedOver, n, token, .queued⟩])
    (hh : s'.handedOver = s.handedOver + 1) (ht : s'.tally = s.tally)
    (he : s'.dispatcher.endpoint = s.dispatcher.endpoint) (c : Command) :
    s'.Balanced (cs ++ [c]) (l ++ [.ofSend ⟨s.handedOver, n, token, .queued⟩]) where
  pending := by simp [hp, h.pending, Entry.isOpen, Entry.ofSend]
  numbers := by
    rw [hp, List.map_append, List.map_singleton]
    refine List.nodup_append.2 ⟨h.numbers, List.nodup_singleton _, fun a ha b hb => ?_⟩
    rw [List.mem_singleton.1 hb]
    exact Nat.ne_of_lt (h.below a ha)
  below k hk := by
    rw [hp, List.map_append, List.mem_append] at hk
    rw [hh]
    rcases hk with hk | hk
    · exact Nat.lt_succ_of_lt (h.below k hk)
    · rw [List.mem_singleton.1 hk]
      exact Nat.lt_succ_self _
  tally y := by simp [ht, h.tally y, List.countP_append, Entry.ofSend]
  accounted e hmem := by
    rw [he]
    rcases List.mem_append.1 hmem with hl | hl
    · exact (h.accounted e hl).mono (List.subset_append_left cs [c])
    · rw [List.mem_singleton.1 hl]
      exact {
        due := fun _ hx => nomatch hx
        delivered := fun _ _ ho => nomatch ho
        awaited := fun _ ho => nomatch ho }

/-- Two pending sends of one number are one. -/
theorem eq_of_number (h : s.Balanced cs l) {p p' : Send} (hp : p ∈ s.pending)
    (hp' : p' ∈ s.pending) (hk : p'.number = p.number) : p' = p :=
  List.inj_on_of_nodup_map h.numbers hp' hp hk

/-- A pending send is found under its number. -/
theorem pending?_of_mem (h : s.Balanced cs l) {p : Send} (hp : p ∈ s.pending) :
    s.pending? p.number = some p := by
  obtain ⟨p', hp'⟩ := Option.isSome_iff_exists.1 (isSome_pending?.2 (List.mem_map_of_mem hp))
  rw [hp', h.eq_of_number hp (mem_of_pending? hp') (number_of_pending? hp')]

/-- The ledger has one open entry for a pending send. -/
theorem countP_number (h : s.Balanced cs l) {p : Send} (hp : p ∈ s.pending) :
    (l.filter Entry.isOpen).countP (fun e => e.number = some p.number) = 1 := by
  have hcount : (s.pending.map Send.number).count p.number = 1 :=
    List.count_eq_one_of_mem h.numbers (List.mem_map_of_mem hp)
  rw [List.count, List.countP_map] at hcount
  rw [h.pending, List.countP_map, ← hcount]
  exact List.countP_congr fun p' _ => by simp [Entry.ofSend]

/-- No entry shows that a send has been posted. -/
theorem map_ofSend_posted (h : s.Balanced cs l) {p : Send}
    (hfound : s.pending? p.number = some p) (hq : p.stage = .queued) :
    (s.setStage p.number (.posted none)).map Entry.ofSend = s.pending.map Entry.ofSend := by
  rw [setStage, List.map_map]
  refine List.map_congr_left fun p' hp' => ?_
  by_cases hk : p'.number = p.number
  · obtain rfl := h.eq_of_number (mem_of_pending? hfound) hp' hk
    simp [Entry.ofSend, hq, Stage.answer?]
  · simp [hk]

/-- A step that brings an outcome keeps it. -/
theorem answered (h : s.Balanced cs l) {k : Nat} {o : Outcome} (hc : c = .deliver k o)
    (hp : s'.pending = s.setStage k (.posted (some o)))
    (hh : s'.handedOver = s.handedOver) (ht : s'.tally = s.tally)
    (he : s'.dispatcher.endpoint = s.dispatcher.endpoint) :
    s'.Balanced (cs ++ [c]) (l.map (Entry.take k o)) where
  pending := by
    rw [hp, Entry.filter_isOpen_take, h.pending, setStage, List.map_map, List.map_map]
    refine List.map_congr_left fun p _ => ?_
    by_cases hk : p.number = k <;>
      simp [Entry.take, Entry.ofSend, Entry.isOpen, Stage.answer?, hk]
  numbers := by rw [hp, numbers_setStage]; exact h.numbers
  below := by rw [hp, numbers_setStage, hh]; exact h.below
  tally x := by rw [ht, h.tally x, Entry.countP_take]
  accounted e' hmem := by
    obtain ⟨e, hl, rfl⟩ := List.mem_map.1 hmem
    have hacc := (h.accounted e hl).mono (List.subset_append_left cs [c])
    rw [he, Entry.take]
    split
    · next ho =>
      -- the entry is open and of a background send, and the outcome is the one that came in
      obtain ⟨hopen, hn⟩ := ho
      have hnone : e.ending = none := by simpa [Entry.isOpen] using hopen
      exact {
        due := fun x hx => by simp [hnone] at hx
        delivered := fun o' k' ho' hk' => by
          obtain rfl : o = o' := Option.some.inj ho'
          obtain rfl : k = k' := Option.some.inj (hn.symm.trans hk')
          simp [hc]
        awaited := fun _ _ hk' => by simp [hn] at hk' }
    · exact hacc

/-- A step that ends a pending send keeps it. -/
theorem ended (h : s.Balanced cs l) {p : Send} (hfound : s.pending? p.number = some p)
    (hp : s'.pending = s.without p.number) (hh : s'.handedOver = s.handedOver)
    (hcounts : s.Counts s' x) (he : s'.dispatcher.endpoint = s.dispatcher.endpoint)
    (hdue : x.Due s.dispatcher.endpoint p.stage.answer?
      (.shutDown ∈ cs ∨ ∃ token, p.token = some token ∧ .cancel token ∈ cs)) (c : Command) :
    s'.Balanced (cs ++ [c]) (l.map (Entry.close p.number x)) where
  pending := by
    rw [hp, Entry.filter_isOpen_close, h.pending, without, List.filter_map]
    congr 1
    exact List.filter_congr fun p' _ => Bool.eq_iff_iff.2 (by simp [Entry.ofSend])
  numbers := by rw [hp, numbers_without]; exact h.numbers.filter _
  below k hk := by
    rw [hp, numbers_without] at hk
    rw [hh]
    exact h.below k (List.mem_filter.1 hk).1
  tally y := by
    rw [hcounts y, h.tally y, Entry.countP_close, h.countP_number (mem_of_pending? hfound)]
    split <;> simp
  accounted e' hmem := by
    obtain ⟨e, hl, rfl⟩ := List.mem_map.1 hmem
    have hacc := (h.accounted e hl).mono (List.subset_append_left cs [c])
    rw [he, Entry.close]
    split
    · next ho =>
      -- the entry is the one of the send that ends
      obtain ⟨hopen, hn⟩ := ho
      obtain ⟨p', hp', rfl⟩ := h.exists_pending hl hopen
      obtain rfl := h.eq_of_number (mem_of_pending? hfound) hp' (Option.some.inj hn)
      exact {
        due := fun y hy => by
          obtain rfl : x = y := Option.some.inj hy
          exact hdue.imp fun hup => hup.imp (List.mem_append_left _)
            fun ⟨token, ht, hf⟩ => ⟨token, ht, List.mem_append_left _ hf⟩
        delivered := hacc.delivered
        awaited := hacc.awaited }
    · exact hacc

/-! ## Steps and runs -/

/-- The entry of a send that ends when it is handed over. -/
theorem enter_of_counts (hh : s'.handedOver = s.handedOver) (hcounts : s.Counts s' x)
    (h : HandOver) : Entry.enter s s' h = ⟨h.notice, h.token, none, h.outcome, some x⟩ := by
  rw [Entry.enter, if_neg (by omega), moved_of_counts hcounts]

/-- The entry of a send that is taken in as pending. -/
theorem enter_of_taken (hh : s'.handedOver = s.handedOver + 1) (h : HandOver) :
    Entry.enter s s' h = ⟨h.notice, h.token, some s.handedOver, h.outcome, none⟩ := by
  rw [Entry.enter, if_pos (by omega)]

/-- **Every step keeps the balance**, in a run of a new service. -/
theorem step {settings : Settings} {product endpoint : String} {k : Clock} {cs : List Command}
    {l : List Entry} (c : Command) :
    let s := (begin (.ofSettings settings product endpoint) k).after cs
    s.Balanced cs l → (s.step c).2.Balanced (cs ++ [c]) (s.book c l) := by
  intro s h
  have he := s.endpoint_step c
  have hstep := s.sendStep c
  rw [book]
  -- of the step only what it does to the sends matters from here on
  generalize (s.step c).2 = s' at *
  generalize HandOver.of? c (s.step c).1 = handOver at *
  cases hstep with
  | idle pending handedOver tally arrival =>
    rw [h.map_follow_of_kept (by simp [pending]) arrival]
    simpa using h.kept (by rw [pending]) (by rw [pending]) handedOver tally he c
  | awaited n o x isSend pending handedOver counts due arrival =>
    rw [h.map_follow_of_kept (by simp [pending]) arrival, Option.map_some, Option.toList_some,
      enter_of_counts handedOver counts]
    refine h.entered pending handedOver counts he rfl ?_
    exact {
      due := fun y hy => by
        obtain rfl : x = y := Option.some.inj hy
        exact due.imp False.elim
      delivered := fun _ _ _ hk => by cases hk
      awaited := fun o' ho' _ => by
        obtain rfl : o = o' := Option.some.inj ho'
        simp [isSend] }
  | dropped n token shut pending handedOver counts arrival =>
    rw [h.map_follow_of_kept (by simp [pending]) arrival, Option.map_some, Option.toList_some,
      enter_of_counts handedOver counts]
    refine h.entered pending handedOver counts he rfl ?_
    exact {
      due := fun y hy => by
        obtain rfl : Ending.cancelled = y := Option.some.inj hy
        have hshut : .shutDown ∈ cs :=
          ((isShutDown_after _ cs).1 shut).resolve_left Bool.false_ne_true
        exact .inl (List.mem_append_left _ hshut)
      delivered := fun _ _ _ hk => by cases hk
      awaited := fun _ ho _ => by cases ho }
  | handed n token live pending handedOver tally arrival =>
    rw [h.map_follow_of_kept (by simp [pending]) arrival, Option.map_some, Option.toList_some,
      enter_of_taken handedOver]
    exact h.handed pending handedOver tally he c
  | posted p found queued pending handedOver tally arrival =>
    rw [h.map_follow_of_kept (by simp [pending, numbers_setStage]) arrival]
    have hentries := pending ▸ h.map_ofSend_posted found queued
    have hnumbers := pending ▸ s.numbers_setStage p.number (.posted none)
    simpa using h.kept hentries hnumbers handedOver tally he c
  | answered p o isDeliver pending handedOver tally arrival =>
    rw [h.map_follow_of_answered (by simp [pending, numbers_setStage]) arrival]
    simpa using h.answered isDeliver pending handedOver tally he
  | ended p x isTurn found pending handedOver counts due arrival =>
    rw [h.map_follow_of_ended pending counts arrival]
    have hdue := due.imp (isGivenUp_after rfl k cs p).1
    simpa using h.ended found pending handedOver counts he hdue c

/-- **Every run of a new service is balanced.** -/
theorem after (settings : Settings) (product endpoint : String) (k : Clock) (cs : List Command) :
    let s := begin (.ofSettings settings product endpoint) k
    (s.after cs).Balanced cs (s.ledger cs) := by
  intro s
  -- from the right, since a command is booked against the state it is given to
  induction cs using List.reverseRecOn with
  | nil => exact begin_nil settings product endpoint k
  | append_singleton cs c ih =>
    rw [after_concat, ledger_concat]
    exact step c ih

/-- The pending sends are among all that was handed over. -/
theorem length_pending_le (h : s.Balanced cs l) : s.pending.length ≤ l.length := by
  rw [← List.length_map (f := Entry.ofSend), ← h.pending]
  exact List.length_filter_le _ _

/-- The completed sends are those that are not pending. -/
theorem completed_eq (h : s.Balanced cs l) :
    s.dispatcher.counters.completed = .ofNat (l.length - s.pending.length) := by
  have hopen : (l.filter Entry.isOpen).length = s.pending.length := by
    rw [h.pending, List.length_map]
  have hsum : l.length - s.pending.length = l.countP (fun e => e.ending = some .sent)
      + l.countP (fun e => e.ending = some .failed)
      + l.countP (fun e => e.ending = some .cancelled) := by
    rw [Entry.length_eq_countP l, hopen, Nat.add_sub_cancel]
  have hsent : s.dispatcher.counters.sent = _ := h.tally .sent
  have hfailed : s.dispatcher.counters.failed = _ := h.tally .failed
  have hcancelled : s.dispatcher.counters.cancelled = _ := h.tally .cancelled
  rw [Counters.completed, hsent, hfailed, hcancelled, hsum]
  simp only [UInt64.ofNat_add]

/-- **Completed and pending sends are all there are**, as long as they can be
counted. -/
theorem completed_add_pending (h : s.Balanced cs l)
    (hlt : l.length < 0x1_0000_0000_0000_0000) :
    s.dispatcher.counters.completed.toNat + s.pending.length = l.length := by
  have hle := h.length_pending_le
  rw [h.completed_eq, UInt64.toNat_ofNat', Nat.mod_eq_of_lt (Nat.lt_of_le_of_lt (Nat.sub_le _ _) hlt)]
  omega

end Balanced

end Service

/-- **Every notice handed over is counted exactly once, when it ends.** In a
run of a new service, of any commands in any order, the ledger has one entry
for every notice handed over; its open entries are the pending sends, each of
the three counters is the number of entries that have ended that way, and an
entry that has ended never changes again. What it ended with is due to what the
run says: a status of 200, another outcome or an address that cannot be posted
to, or the shutdown or the send's own token. So completed and pending sends
together are the notices handed over. -/
theorem sends_are_counted_once (settings : Settings) (product endpoint : String) (k : Clock)
    (cs : List Command) :
    let s₀ := Service.begin (.ofSettings settings product endpoint) k
    let s := s₀.after cs
    let l := s₀.ledger cs
    l.map (fun e => (e.notice, e.token))
        = (s₀.handOvers cs).map (fun h => (h.notice, h.token)) ∧
      l.filter Entry.isOpen = s.pending.map .ofSend ∧
      (∀ x, s.tally x = .ofNat (l.countP fun e => e.ending = some x)) ∧
      (∀ e ∈ l, e.Accounted endpoint cs) ∧
      (∀ (ds : List Command) (i : Nat) (e : Entry), l[i]? = some e →
        ∃ e', (s₀.ledger (cs ++ ds))[i]? = some e' ∧ e.Continues e') ∧
      (l.length < 0x1_0000_0000_0000_0000 →
        s.dispatcher.counters.completed.toNat + s.pending.length = l.length) := by
  intro s₀ s l
  have h : s.Balanced cs l := Service.Balanced.after settings product endpoint k cs
  have hend : s.dispatcher.endpoint = endpoint := s₀.endpoint_after cs
  refine ⟨?_, h.pending, h.tally, fun e he => hend ▸ h.accounted e he, fun ds i e he => ?_,
    h.completed_add_pending⟩
  · exact s₀.map_bookAll [] cs
  · have happend : s₀.ledger (cs ++ ds) = s.bookAll l ds := s₀.bookAll_append [] cs ds
    rw [happend]
    exact Service.continues_bookAll ds he

/-- A run in which a send is given up after its status has come in, one is
waited for, and one is still out. -/
theorem sends_are_counted_once_past_a_late_cancel :
    let n : Notice := ⟨"a", "r", .filteredBlockList, .v4 127 0 0 1, none,
      ⟨0, 0, by decide, by decide, by decide⟩⟩
    let s₀ := Service.begin (.ofSettings .default "" "http://[::1]/") .fresh
    let cs : List Command := [.sendLater n (some "t"), .send n (.status 200), .sendLater n none,
      .turn 0, .deliver 0 (.status 200), .cancel "t", .turn 0, .turn 1]
    let s := s₀.after cs
    (s₀.ledger cs).map Entry.ending = [some .cancelled, some .sent, none]
      ∧ s.dispatcher.counters.completed.toNat + s.pending.length = (s₀.ledger cs).length := by
  intro n s₀ cs
  have hlt : (s₀.ledger cs).length < 0x1_0000_0000_0000_0000 := by decide +kernel
  obtain ⟨-, -, -, -, -, hsum⟩ := sends_are_counted_once .default "" "http://[::1]/" .fresh cs
  refine ⟨by decide +kernel, ?_⟩
  simpa only [s₀] using hsum hlt

end Herald
