import Ngtcp2.Receive.Take

/-!
# The receiver of one stream

A receiver puts the stream together from the frames it accepts, gives the bytes up to the first gap to the
application, and reports the end of the stream once.
-/

namespace Ngtcp2

structure Receiver where
  data : Assembly UInt8
  /-- The highest offset that STREAM frames have reached. -/
  last : Nat
  shut : Bool
  reset : Bool
  stopped : Bool
  /-- The end of the stream has been reported. -/
  done : Bool
  within : ∀ o, last ≤ o → data.cell o = none
  ended : done = true → shut = true ∧ data.front = last

namespace Receiver

def new : Receiver where
  data := .empty
  last := 0
  shut := false
  reset := false
  stopped := false
  done := false
  within _ _ := rfl
  ended := nofun

variable (r : Receiver) (fr : StreamFrame)

theorem front_le : r.data.front ≤ r.last := Assembly.front_le (r.within r.last (Nat.le_refl _))

def complete : Bool := r.shut && r.data.front == r.last

def settled : Bool := r.shut && (r.reset || r.data.front == r.last)

def refuses : Bool :=
  if fr.fin then if r.shut then r.last != fr.endOffset else decide (fr.endOffset < r.last)
  else r.shut && decide (r.last < fr.endOffset)

def dataAfter : Assembly UInt8 := if r.stopped then r.data else r.data.put fr.offset fr.data

theorem dataAfter_within (o : Nat) (beyond : max r.last fr.endOffset ≤ o) : (r.dataAfter fr).cell o = none := by
  unfold dataAfter
  split
  · exact r.within o (by omega)
  · refine Assembly.put_cell_none.mpr ⟨r.within o (by omega), ?_⟩
    unfold StreamFrame.endOffset StreamFrame.datalen at beyond
    omega

def accept : Receiver where
  data := r.dataAfter fr
  last := max r.last fr.endOffset
  shut := r.shut || fr.fin
  reset := r.reset
  stopped := r.stopped
  done := ((r.shut || fr.fin) && (r.dataAfter fr).front == max r.last fr.endOffset) &&
    (r.done || !(r.stopped || r.complete))
  within := r.dataAfter_within fr
  ended := by
    intro done
    simp only [Bool.and_eq_true, beq_iff_eq] at done
    exact done.1

def take : Receiver := if r.refuses fr || (fr.fin && r.shut) then r else r.accept fr

def resetBy : Receiver :=
  { r with shut := true, reset := true, ended := fun done => ⟨rfl, (r.ended done).2⟩ }

def stop : Receiver := { r with stopped := true }

variable {r fr}

theorem complete_of_done (done : r.done = true) : r.complete = true := by
  obtain ⟨shut, front⟩ := r.ended done
  simp [complete, shut, front]

theorem take_complete (complete : r.complete = true) : r.take fr = r := by
  have parts : r.shut = true ∧ r.data.front = r.last := by simpa [Receiver.complete] using complete
  obtain ⟨shut, front⟩ := parts
  unfold take
  split
  · rfl
  next taken =>
    simp only [Bool.or_eq_true, Bool.and_eq_true, not_or, shut, and_true, Bool.not_eq_true] at taken
    obtain ⟨agreed, plain⟩ := taken
    have old : fr.endOffset ≤ r.last := by
      simp only [refuses, plain, shut] at agreed
      simpa using agreed
    have data : r.dataAfter fr = r.data := by
      unfold dataAfter
      split
      · rfl
      · refine Assembly.put_old ?_
        unfold StreamFrame.endOffset StreamFrame.datalen at old
        omega
    have last : max r.last fr.endOffset = r.last := Nat.max_eq_left old
    have accepted : r.accept fr =
        { r with done := (r.complete && (r.done || !(r.stopped || r.complete)))
                 ended := fun _ => ⟨shut, front⟩ } := by
      unfold accept
      simp only [data, last, plain, shut, front]
      congr 1
      simp [Receiver.complete, shut, front]
    rw [accepted]
    have same : (r.complete && (r.done || !(r.stopped || r.complete))) = r.done := by
      rw [complete]
      simp
    cases r
    simp_all

end Receiver

structure RxSide.Represents (side : RxSide) (r : Receiver) : Prop where
  keeps : side.rob.Keeps r.data
  last : side.lastRxOffset = r.last
  shut : side.shutRd = r.shut
  reset : side.recvRst = r.reset
  stopped : side.stopSending = r.stopped

theorem RxSide.represents_new : (RxSide.new false).Represents .new :=
  ⟨ngtcp2RobInit_keeps, rfl, rfl, rfl, rfl⟩

theorem RxSide.Represents.settled {side : RxSide} {r : Receiver} (represents : side.Represents r) :
    side.settled = r.settled := by
  unfold RxSide.settled Receiver.settled
  rw [represents.keeps.firstGap, represents.last, represents.shut, represents.reset]

structure Reports (dels : List (Bool × List UInt8)) (r : Receiver) : Prop where
  text : (dels.map Prod.snd).flatten = r.data.text
  flags : ∃ k, dels.map Prod.fst = List.replicate k false ++ if r.done then [true] else []

theorem reports_new : Reports [] .new :=
  ⟨by simp [Receiver.new, Assembly.text, Assembly.slice], 0, by simp [Receiver.new]⟩

theorem Reports.same {dels : List (Bool × List UInt8)} {r r' : Receiver} (reports : Reports dels r)
    (text : r'.data.text = r.data.text) (done : r'.done = r.done) : Reports dels r' :=
  ⟨text ▸ reports.text, done ▸ reports.flags⟩

theorem Reports.count {dels : List (Bool × List UInt8)} {r : Receiver} (reports : Reports dels r) :
    (dels.map Prod.fst).count true = if r.done then 1 else 0 := by
  obtain ⟨k, flags⟩ := reports.flags
  rw [flags]
  cases r.done <;> simp [List.count_replicate]

def stamped (shutRd : Bool) (last : Nat) : Nat → List (List UInt8) → List (Bool × List UInt8)
  | _, [] => []
  | rxOffset, data :: rest =>
    (shutRd && rxOffset + data.length == last, data) :: stamped shutRd last (rxOffset + data.length) rest

theorem deliveries_deliverEvents (id : Nat) (shutRd : Bool) (last rxOffset : Nat) (chunks : List (List UInt8)) :
    deliveries id (deliverEvents id shutRd last rxOffset chunks) = stamped shutRd last rxOffset chunks := by
  induction chunks generalizing rxOffset with
  | nil => rfl
  | cons data rest ih =>
    have first := ih (rxOffset + data.length)
    unfold deliveries at first ⊢
    simp [deliverEvents, stamped, Event.delivery?, first]

section Stamped

variable {shutRd : Bool} {last rxOffset : Nat} {chunks : List (List UInt8)}

theorem stamped_snd : (stamped shutRd last rxOffset chunks).map Prod.snd = chunks := by
  induction chunks generalizing rxOffset with
  | nil => rfl
  | cons data rest ih => simp [stamped, ih]

theorem stamped_fst (some : chunks ≠ []) (filled : ∀ chunk ∈ chunks, chunk ≠ [])
    (within : rxOffset + chunks.flatten.length ≤ last) :
    (stamped shutRd last rxOffset chunks).map Prod.fst =
      List.replicate (chunks.length - 1) false ++ [shutRd && rxOffset + chunks.flatten.length == last] := by
  induction chunks generalizing rxOffset with
  | nil => exact absurd rfl some
  | cons data rest ih =>
    cases rest with
    | nil => simp [stamped]
    | cons next later =>
      have positive : 0 < next.length := List.length_pos_of_ne_nil (filled next (by simp))
      have total : (data :: next :: later).flatten.length =
          data.length + (next :: later).flatten.length := by simp
      have more : 0 < (next :: later).flatten.length := by simp; omega
      have tail := ih (by simp) (fun chunk member => filled chunk (List.mem_cons_of_mem _ member))
        (by omega : rxOffset + data.length + (next :: later).flatten.length ≤ last)
      have short : (rxOffset + data.length == last) = false := by
        rw [beq_eq_false_iff_ne]
        omega
      rw [total]
      simp only [stamped, List.map_cons, short, Bool.and_false] at tail ⊢
      rw [tail, List.length_cons, Nat.add_sub_cancel]
      simp only [List.length_cons, Nat.add_sub_cancel]
      rw [List.replicate_succ, List.cons_append, Nat.add_assoc]

end Stamped

theorem Reports.taken {dels : List (Bool × List UInt8)} {r r' : Receiver} {chunks : List (List UInt8)}
    (reports : Reports dels r) (text : r'.data.text = r.data.text ++ chunks.flatten)
    (filled : ∀ chunk ∈ chunks, chunk ≠ []) (open_ : chunks ≠ [] → r.done = false)
    (done : r'.done = if chunks = [] then r.done else r'.complete) :
    Reports (dels ++ stamped r'.shut r'.last r.data.front chunks) r' := by
  by_cases none : chunks = []
  · subst none
    simpa [stamped] using reports.same (by simpa using text) (by simpa using done)
  · have front : r'.data.front = r.data.front + chunks.flatten.length := by
      have lengths := congrArg List.length text
      rwa [Assembly.length_text, List.length_append, Assembly.length_text] at lengths
    have within := r'.front_le
    obtain ⟨told, k, flags⟩ := reports
    have last : (r'.shut && r.data.front + chunks.flatten.length == r'.last) = r'.done := by
      rw [done, if_neg none, Receiver.complete, front]
    refine ⟨?_, ?_⟩
    · rw [List.map_append, stamped_snd, List.flatten_append, told, text]
    · rw [List.map_append, flags, open_ none, stamped_fst none filled (by omega), last]
      cases r'.done with
      | true => exact ⟨k + (chunks.length - 1), by simp [List.replicate_append_replicate, ← List.append_assoc]⟩
      | false =>
        refine ⟨k + (chunks.length - 1) + 1, ?_⟩
        simp only [Bool.false_eq_true, ↓reduceIte, List.append_nil]
        rw [List.replicate_succ', List.replicate_add, List.append_assoc]

end Ngtcp2
