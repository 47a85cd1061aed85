import Ngtcp2.System

/-!
# Stream ids

The ids of the peer are recorded in the trackers, and our own lie below the next ids.
-/

namespace Ngtcp2

open List

def Event.streamId? : Event → Option Nat
  | .recvStreamData id _ _ | .ackedStreamDataOffset id _ _ | .streamClose id _
  | .mark (.mapInsert id _) => some id
  | _ => none

def Event.Once : Event → Event → Prop
  | .streamClose id _, later => later.streamId? ≠ some id
  | .mark (.mapInsert id _), .mark (.mapInsert id' _) => id ≠ id'
  | _, _ => True

theorem Event.once_of {e e' : Event} (closed : ∀ id code, e = .streamClose id code → e'.streamId? ≠ some id)
    (inserted : ∀ id present, e = .mark (.mapInsert id present) → ∀ present', e' ≠ .mark (.mapInsert id present')) :
    e.Once e' := by
  unfold Event.Once
  split
  · exact closed _ _ rfl
  · rintro rfl
    exact inserted _ _ rfl _ rfl
  · trivial

def streamEvents (log : List Event) : List Event := log.filter fun e => e.streamId?.isSome

structure Book where
  server : Bool
  bidiIdtr : Idtr
  uniIdtr : Idtr
  maxBidi : Nat
  nextBidi : Nat
  maxUni : Nat
  nextUni : Nat

namespace Book

variable (b : Book)

def localStream (id : Nat) : Bool :=
  if b.server then id % 2 != 0 else id % 2 == 0

def idtr (id : Nat) : Idtr :=
  if bidiStream id then b.bidiIdtr else b.uniIdtr

def next (id : Nat) : Nat :=
  if bidiStream id then b.nextBidi else b.nextUni

def Taken (id : Nat) : Prop :=
  if b.localStream id then id < b.next id else (b.idtr id).Opened id

structure Ok : Prop where
  bidiIdtr : b.bidiIdtr.Ok
  uniIdtr : b.uniIdtr.Ok
  bidiServer : b.bidiIdtr.server = !b.server
  uniServer : b.uniIdtr.server = !b.server
  nextBidi : b.nextBidi % 4 = if b.server then 1 else 0
  nextUni : b.nextUni % 4 = if b.server then 3 else 2
  maxBidi : b.maxBidi < varintBound
  maxUni : b.maxUni < varintBound

variable {b}

theorem Ok.idtr (ok : b.Ok) (id : Nat) : (b.idtr id).Ok ∧ (b.idtr id).server = !b.server := by
  unfold Book.idtr
  split
  · exact ⟨ok.bidiIdtr, ok.bidiServer⟩
  · exact ⟨ok.uniIdtr, ok.uniServer⟩

theorem Ok.nextBidi_kind (ok : b.Ok) : b.localStream b.nextBidi = true ∧ bidiStream b.nextBidi = true := by
  have kind := ok.nextBidi
  unfold Book.localStream bidiStream
  cases server : b.server <;> simp only [server] at kind ⊢ <;>
    simp only [Bool.false_eq_true, ↓reduceIte, beq_iff_eq, bne_iff_ne] at kind ⊢ <;> omega

theorem Ok.nextUni_kind (ok : b.Ok) : b.localStream b.nextUni = true ∧ bidiStream b.nextUni = false := by
  have kind := ok.nextUni
  unfold Book.localStream bidiStream
  cases server : b.server <;> simp only [server] at kind ⊢ <;>
    simp only [Bool.false_eq_true, ↓reduceIte, beq_iff_eq, bne_iff_ne, beq_eq_false_iff_ne] at kind ⊢ <;>
    omega

theorem Ok.next_free (ok : b.Ok) : ¬ b.Taken b.nextBidi ∧ ¬ b.Taken b.nextUni := by
  unfold Taken Book.next
  simp [ok.nextBidi_kind, ok.nextUni_kind]

def setIdtr (b : Book) (id : Nat) (idtr : Idtr) : Book :=
  { b with
    bidiIdtr := if bidiStream id then idtr else b.bidiIdtr
    uniIdtr := if bidiStream id then b.uniIdtr else idtr }

theorem idtr_setIdtr (b : Book) (id i : Nat) (idtr : Idtr) :
    (b.setIdtr id idtr).idtr i = if bidiStream i = bidiStream id then idtr else b.idtr i := by
  unfold Book.idtr setIdtr
  cases bidiStream i <;> cases bidiStream id <;> rfl

theorem Ok.setIdtr {id : Nat} {idtr : Idtr} (ok : b.Ok) (bound : id < varintBound)
    (remote : b.localStream id = false) (opened : ngtcp2IdtrOpen (b.idtr id) id = .ok idtr) :
    (b.setIdtr id idtr).Ok ∧ ¬ b.Taken id ∧ (b.setIdtr id idtr).Taken id ∧
      ∀ i, b.Taken i → (b.setIdtr id idtr).Taken i := by
  obtain ⟨good, server⟩ := ok.idtr id
  obtain ⟨good', server', fresh, opens⟩ := ngtcp2IdtrOpen_ok good bound opened
  rw [server] at server'
  refine ⟨?_, ?_, ?_, fun i taken => ?_⟩
  · unfold Book.setIdtr
    cases bidiStream id
    · exact { ok with uniIdtr := good', uniServer := server' }
    · exact { ok with bidiIdtr := good', bidiServer := server' }
  · unfold Taken
    rw [remote]
    exact fresh
  · unfold Taken
    rw [show (b.setIdtr id idtr).localStream id = false from remote, idtr_setIdtr, if_pos rfl]
    exact (opens id).mpr (.inr rfl)
  · unfold Taken at taken ⊢
    change if b.localStream i then i < b.next i else _
    cases ours : b.localStream i <;> simp only [ours, Bool.false_eq_true, ↓reduceIte] at taken ⊢
    · rw [idtr_setIdtr]
      split
      next kind =>
        have same : b.idtr i = b.idtr id := by
          unfold Book.idtr
          rw [kind]
        exact (opens i).mpr (.inl (same ▸ taken))
      next => exact taken
    · exact taken

theorem add64_next {n limit : Nat} (allowed : n ≤ limit) (bound : limit < varintBound) :
    add64 n 4 = n + 4 := by
  unfold add64 varintBound at *
  omega

theorem Taken.later {b' : Book} {id : Nat} (taken : b.Taken id) (server : b'.server = b.server)
    (idtr : b'.idtr = b.idtr) (next : b.next id ≤ b'.next id) : b'.Taken id := by
  have ours : b'.localStream id = b.localStream id := by
    unfold Book.localStream
    rw [server]
  unfold Taken at taken ⊢
  rw [ours, idtr]
  split at taken <;> simp_all
  omega

theorem Ok.openBidi (ok : b.Ok) (allowed : b.nextBidi ≤ b.maxBidi) :
    let b' := { b with nextBidi := add64 b.nextBidi 4 }
    b'.Ok ∧ b'.Taken b.nextBidi ∧ ∀ i, b.Taken i → b'.Taken i := by
  have next := add64_next allowed ok.maxBidi
  obtain ⟨ours, bidi⟩ := ok.nextBidi_kind
  refine ⟨{ ok with nextBidi := ?_ }, ?_, fun i taken => ?_⟩
  · have kind := ok.nextBidi
    dsimp only
    rw [next]
    omega
  · unfold Taken
    change if b.localStream b.nextBidi then _ else _
    simp [ours, Book.next, bidi, next]
  · refine taken.later rfl rfl ?_
    unfold Book.next
    dsimp only
    split <;> omega

theorem Ok.openUni (ok : b.Ok) (allowed : b.nextUni ≤ b.maxUni) :
    let b' := { b with nextUni := add64 b.nextUni 4 }
    b'.Ok ∧ b'.Taken b.nextUni ∧ ∀ i, b.Taken i → b'.Taken i := by
  have next := add64_next allowed ok.maxUni
  obtain ⟨ours, uni⟩ := ok.nextUni_kind
  refine ⟨{ ok with nextUni := ?_ }, ?_, fun i taken => ?_⟩
  · have kind := ok.nextUni
    dsimp only
    rw [next]
    omega
  · unfold Taken
    change if b.localStream b.nextUni then _ else _
    simp [ours, Book.next, uni, next]
  · refine taken.later rfl rfl ?_
    unfold Book.next
    dsimp only
    split <;> omega

end Book

def View.book (v : View) : Book where
  server := v.server
  bidiIdtr := v.remoteBidiIdtr
  uniIdtr := v.remoteUniIdtr
  maxBidi := v.maxLocalStreamIdBidi
  nextBidi := v.nextLocalStreamIdBidi
  maxUni := v.maxLocalStreamIdUni
  nextUni := v.nextLocalStreamIdUni

def View.key (v : View) (id : Nat) : Option (Nat × Bool) :=
  (v.strms id).map fun strm => (strm.streamId, id == 0 && strm.shutRd)

structure View.Ids (v : View) : Prop where
  book : v.book.Ok
  key : ∀ id name shut, v.key id = some (name, shut) →
    name = id ∧ shut = false ∧ id < varintBound ∧ v.book.Taken id
  zero : (v.key 0).isSome = true
  gone : ∀ id code, .streamClose id code ∈ streamEvents v.log → v.key id = none ∧ v.book.Taken id
  inserted : ∀ id present, .mark (.mapInsert id present) ∈ streamEvents v.log →
    present = false ∧ v.book.Taken id
  once : (streamEvents v.log).Pairwise Event.Once

section

variable {v w : View}

theorem streamEvents_plain {log : List Event} {e : Event} (plain : e.streamId? = none) :
    streamEvents (log ++ [e]) = streamEvents log := by
  simp [streamEvents, plain]

theorem streamEvents_named {log : List Event} {e : Event} (named : e.streamId?.isSome = true) :
    streamEvents (log ++ [e]) = streamEvents log ++ [e] := by
  simp [streamEvents, named]

theorem View.key_same (strms : w.strms = v.strms) : w.key = v.key := by
  unfold View.key
  rw [strms]

theorem View.key_set {id : Nat} {strm strm' : Strm} (found : v.strms id = some strm)
    (strms : w.strms = Function.update v.strms id (some strm')) (name : strm'.streamId = strm.streamId)
    (zero : id = 0 → strm'.shutRd = strm.shutRd) : w.key = v.key := by
  funext i
  unfold View.key
  rw [strms]
  by_cases same : i = id
  · subst same
    by_cases first : i = 0
    · simp [found, name, zero first]
    · simp [found, name, beq_false_of_ne first]
  · simp [same]

namespace View.Ids

theorem name (ids : v.Ids) {id : Nat} {strm : Strm} (found : v.strms id = some strm) :
    strm.streamId = id := by
  have key : v.key id = some (strm.streamId, id == 0 && strm.shutRd) := by simp [View.key, found]
  exact (ids.key _ _ _ key).1

theorem taken (ids : v.Ids) {id : Nat} {strm : Strm} (found : v.strms id = some strm) :
    v.book.Taken id := by
  have key : v.key id = some (strm.streamId, id == 0 && strm.shutRd) := by simp [View.key, found]
  exact (ids.key _ _ _ key).2.2.2

theorem same (ids : v.Ids) (book : w.book = v.book) (key : w.key = v.key)
    (log : streamEvents w.log = streamEvents v.log) : w.Ids where
  book := book ▸ ids.book
  key := by
    rw [key, book]
    exact ids.key
  zero := key ▸ ids.zero
  gone := by
    rw [key, book, log]
    exact ids.gone
  inserted := by
    rw [book, log]
    exact ids.inserted
  once := log ▸ ids.once

theorem grown (ids : v.Ids) (book : w.book.Ok) (taken : ∀ id, v.book.Taken id → w.book.Taken id)
    (key : w.key = v.key) (log : streamEvents w.log = streamEvents v.log) : w.Ids where
  book := book
  key id name shut found := by
    obtain ⟨named, unshut, bound, before⟩ := ids.key id name shut (key ▸ found)
    exact ⟨named, unshut, bound, taken id before⟩
  zero := key ▸ ids.zero
  gone id code member := by
    rw [log] at member
    obtain ⟨absent, before⟩ := ids.gone id code member
    exact ⟨key ▸ absent, taken id before⟩
  inserted id present member := by
    rw [log] at member
    obtain ⟨fresh, before⟩ := ids.inserted id present member
    exact ⟨fresh, taken id before⟩
  once := log ▸ ids.once

theorem added {id : Nat} (ids : v.Ids) (free : ¬ v.book.Taken id) (bound : id < varintBound)
    (book : w.book.Ok) (taken : ∀ i, v.book.Taken i → w.book.Taken i) (now : w.book.Taken id)
    (key : w.key = Function.update v.key id (some (id, false)))
    (log : streamEvents w.log = streamEvents v.log ++ [.mark (.mapInsert id false)]) : w.Ids where
  book := book
  key i name shut found := by
    rw [key] at found
    by_cases same : i = id
    · subst same
      obtain ⟨rfl, rfl⟩ : i = name ∧ false = shut := by simpa using found
      exact ⟨rfl, rfl, bound, now⟩
    · obtain ⟨named, unshut, small, before⟩ := ids.key i name shut (by simpa [same] using found)
      exact ⟨named, unshut, small, taken i before⟩
  zero := by
    rw [key]
    by_cases first : 0 = id
    · simp [first]
    · simp [first, ids.zero]
  gone i code member := by
    rw [log, mem_append] at member
    rcases member with member | member
    · obtain ⟨absent, before⟩ := ids.gone i code member
      have other : i ≠ id := by
        rintro rfl
        exact free before
      exact ⟨by simp [key, other, absent], taken i before⟩
    · simp at member
  inserted i present member := by
    rw [log, mem_append] at member
    rcases member with member | member
    · obtain ⟨fresh, before⟩ := ids.inserted i present member
      exact ⟨fresh, taken i before⟩
    · obtain ⟨rfl, rfl⟩ : i = id ∧ present = false := by simpa using member
      exact ⟨rfl, now⟩
  once := by
    rw [log]
    refine pairwise_append.mpr ⟨ids.once, pairwise_singleton _ _, fun e member e' last => ?_⟩
    obtain rfl : e' = .mark (.mapInsert id false) := by simpa using last
    refine Event.once_of (fun i code first named => ?_) fun i present first present' same => ?_
    · cases named
      exact free (ids.gone _ _ (first ▸ member)).2
    · cases same
      exact free (ids.inserted _ _ (first ▸ member)).2

theorem told {id : Nat} {e : Event} (ids : v.Ids) (named : e.streamId? = some id)
    (plain : (∀ i code, e ≠ .streamClose i code) ∧ ∀ i present, e ≠ .mark (.mapInsert i present))
    (opened : (v.key id).isSome = true) (book : w.book = v.book) (key : w.key = v.key)
    (log : w.log = v.log ++ [e]) : w.Ids := by
  have events : streamEvents w.log = streamEvents v.log ++ [e] := by
    rw [log, streamEvents_named (by simp [named])]
  refine ⟨book ▸ ids.book, ?_, key ▸ ids.zero, fun i code member => ?_, fun i present member => ?_, ?_⟩
  · rw [key, book]
    exact ids.key
  · rw [events, mem_append, mem_singleton] at member
    rcases member with member | rfl
    · rw [key, book]
      exact ids.gone i code member
    · exact absurd rfl (plain.1 i code)
  · rw [events, mem_append, mem_singleton] at member
    rcases member with member | rfl
    · rw [book]
      exact ids.inserted i present member
    · exact absurd rfl (plain.2 i present)
  · rw [events]
    refine pairwise_append.mpr ⟨ids.once, pairwise_singleton _ _, fun first member e' last => ?_⟩
    obtain rfl : e' = e := by simpa using last
    refine Event.once_of (fun i code closed same => ?_) fun i _ _ present => plain.2 i present
    obtain rfl : id = i := by simpa [named] using same
    simp [(ids.gone _ _ (closed ▸ member)).1] at opened

theorem closed {id : Nat} (ids : v.Ids) (code : Nat) (opened : (v.key id).isSome = true) (plain : id ≠ 0)
    (book : w.book = v.book) (key : w.key = Function.update v.key id none)
    (log : streamEvents w.log = streamEvents v.log ++ [.streamClose id code]) : w.Ids where
  book := book ▸ ids.book
  key i name shut found := by
    by_cases same : i = id
    · simp [key, same] at found
    · rw [book]
      exact ids.key i name shut (by simpa [key, same] using found)
  zero := by simp [key, plain.symm, ids.zero]
  gone i code' member := by
    rw [log, mem_append, mem_singleton] at member
    rw [book, key]
    rcases member with member | last
    · obtain ⟨absent, before⟩ := ids.gone i code' member
      refine ⟨?_, before⟩
      by_cases same : i = id <;> simp [same, absent]
    · cases last
      obtain ⟨⟨name, shut⟩, found⟩ := Option.isSome_iff_exists.mp opened
      exact ⟨by simp, (ids.key _ _ _ found).2.2.2⟩
  inserted i present member := by
    rw [log, mem_append, mem_singleton] at member
    rw [book]
    rcases member with member | last
    · exact ids.inserted i present member
    · cases last
  once := by
    rw [log]
    refine pairwise_append.mpr ⟨ids.once, pairwise_singleton _ _, fun e member e' last => ?_⟩
    obtain rfl : e' = .streamClose id code := by simpa using last
    refine Event.once_of (fun i code' first named => ?_) fun _ _ _ _ => nofun
    cases named
    simp [(ids.gone _ _ (first ▸ member)).1] at opened

end View.Ids

theorem View.Ids.created {id : Nat} {strm : Strm} (ids : v.Ids) (free : ¬ v.book.Taken id)
    (bound : id < varintBound) (named : strm.streamId = id) (unshut : id = 0 → strm.shutRd = false)
    (strms : w.strms = Function.update v.strms id (some strm)) (book : w.book.Ok)
    (taken : ∀ i, v.book.Taken i → w.book.Taken i) (now : w.book.Taken id)
    (log : w.log = v.log ++ [.mark (.mapInsert id false)]) : w.Ids := by
  refine ids.added free bound book taken now ?_ (by rw [log, streamEvents_named rfl])
  funext i
  unfold View.key
  rw [strms]
  by_cases same : i = id
  · subst same
    by_cases first : i = 0
    · simp [named, unshut first]
    · simp [named, beq_false_of_ne first]
  · simp [same]

theorem Move.ids {sc : Scope} (move : Move sc v w) (ids : v.Ids) : w.Ids := by
  cases move
  case limits bidi uni limit bidiOk uniOk limitOk =>
    refine ids.grown ?_ (fun _ taken => taken) rfl (streamEvents_plain rfl)
    exact { ids.book with maxBidi := bidiOk, maxUni := uniOk }
  case maxStreamId bidi uni bidiOk uniOk =>
    refine ids.grown ?_ (fun _ taken => taken) rfl rfl
    exact { ids.book with maxBidi := bidiOk ids.book.maxBidi, maxUni := uniOk ids.book.maxUni }
  case maxStreamData id n strm found bound =>
    exact ids.same rfl (View.key_set found rfl rfl fun _ => rfl) rfl
  case strm0Limit limit strm found bound =>
    exact ids.same rfl (View.key_set found rfl rfl fun _ => rfl) (streamEvents_plain rfl)
  case handshakeBytes n strm found bound =>
    exact ids.same rfl (View.key_set found rfl rfl fun _ => rfl) (streamEvents_plain rfl)
  case openId id idtr allowed bound remote opened =>
    obtain ⟨book, _, _, taken⟩ := ids.book.setIdtr bound remote opened
    exact ids.grown book taken rfl rfl
  case newRemote id idtr strm bound remote opened absent maxTx init =>
    obtain ⟨book, free, now, taken⟩ := ids.book.setIdtr bound remote opened
    exact ids.created free bound (init ▸ rfl) (fun _ => init ▸ rfl) rfl book taken now rfl
  case newBidi strm allowed absent maxTx init =>
    obtain ⟨book, now, taken⟩ := ids.book.openBidi allowed
    have bound := Nat.lt_of_le_of_lt allowed ids.book.maxBidi
    exact ids.created ids.book.next_free.1 bound (init ▸ rfl) (fun _ => init ▸ rfl) rfl book taken now rfl
  case newUni strm allowed absent maxTx init =>
    obtain ⟨book, now, taken⟩ := ids.book.openUni allowed
    have bound := Nat.lt_of_le_of_lt allowed ids.book.maxUni
    have plain : v.nextLocalStreamIdUni ≠ 0 := by
      have kind : v.nextLocalStreamIdUni % 4 = if v.server then 3 else 2 := ids.book.nextUni
      intro zero
      cases server : v.server <;> simp [zero, server] at kind
    exact ids.created ids.book.next_free.2 bound (init ▸ rfl) (fun zero => absurd zero plain) rfl book
      taken now rfl
  case clash id found next =>
    have opened : (v.key id).isSome = true := by simpa [View.key] using found
    obtain ⟨⟨name, shut⟩, held⟩ := Option.isSome_iff_exists.mp opened
    have taken := (ids.key id name shut held).2.2.2
    rcases next with ⟨rfl, _⟩ | ⟨rfl, _⟩
    · exact absurd taken ids.book.next_free.1
    · exact absurd taken ids.book.next_free.2
  case close id code strm found closable =>
    have held : v.key id = some (strm.streamId, id == 0 && strm.shutRd) := by simp [View.key, found]
    obtain ⟨named, unshut, -, -⟩ := ids.key _ _ _ held
    have plain : id ≠ 0 := by
      rintro rfl
      simp [Strm.closable] at closable
      simp [closable] at unshut
    subst named
    refine ids.closed code (by simp [held]) plain rfl ?_ ?_
    · funext i
      by_cases same : i = strm.streamId <;> simp [View.key, View.closeStream, View.setStrm, same]
    · simp [streamEvents, View.closeStream, closeMark, Event.streamId?]
  case reset id strm fr found named queued =>
    exact ids.same rfl (View.key_set found rfl rfl fun _ => rfl) rfl
  case stop id strm allowed found unlisted plain =>
    exact ids.same rfl (View.key_set found rfl rfl fun _ => rfl) rfl
  case rx id strm strm' allowed found step =>
    exact ids.same rfl (View.key_set found rfl step.same.1.streamId fun _ => step.same.2) rfl
  case credit n strm allowed found credits =>
    exact ids.same rfl (View.key_set found rfl rfl fun _ => rfl) rfl
  case claim id offset n strm strm' allowed found same zero claims =>
    exact ids.same rfl (View.key_set found rfl same.streamId zero) (streamEvents_plain rfl)
  case claimUnseen id offset idtr allowed shut bound remote opened fits =>
    rcases opened with opened | ⟨broken, rfl⟩
    · obtain ⟨book, _, _, taken⟩ := ids.book.setIdtr bound remote opened
      exact ids.grown book taken rfl (streamEvents_plain rfl)
    · exact absurd (ids.book.idtr id).1 broken
  case refuse id n last strm allowed found reach =>
    exact ids.same rfl (View.key_set found rfl rfl fun _ => rfl) (streamEvents_plain rfl)
  case fcLink id strm found unlisted receives =>
    exact ids.same rfl (View.key_set found rfl rfl fun _ => rfl) rfl
  case fcUnlink id strm found listed =>
    exact ids.same rfl (View.key_set found rfl rfl fun _ => rfl) rfl
  case advertiseStrm waiting id strm first listed found queued =>
    exact ids.same rfl (View.key_set found rfl rfl fun _ => rfl) rfl
  case deliver id fin data allowed opened =>
    exact ids.told (e := .recvStreamData id fin data) rfl ⟨by simp, by simp⟩
      (by simpa [View.key] using opened) rfl rfl rfl
  case ackReport ent fr rest strm held chain acked found told =>
    exact ids.told (e := .ackedStreamDataOffset fr.streamId _ _) rfl ⟨by simp, by simp⟩
      (by simp [View.key, found]) rfl (View.key_set found rfl rfl fun _ => rfl) rfl
  case sendStream ckm fr strm ent queue nalloc allowed ready keyed entry short carries pushed found
      offset small strmFits connFits filled =>
    exact ids.same rfl (View.key_set found rfl rfl fun _ => rfl) (streamEvents_plain rfl)
  case sendEarly ckm fr strm ent nalloc allowed ready entry short carries found offset small strmFits
      connFits filled =>
    exact ids.same rfl (View.key_set found rfl rfl fun _ => rfl) (streamEvents_plain rfl)
  case split ckm frames ack ent ent' nent queue nalloc allowed ready carried held same chain renewed
      pktNum fresh allocated pushed =>
    exact ids.same rfl rfl ((streamEvents_plain rfl).trans (streamEvents_plain rfl))
  case handshakeOver state allowed =>
    exact ids.same rfl rfl ((streamEvents_plain rfl).trans (streamEvents_plain rfl))
  case ackFrame ent fr rest held chain acked silent =>
    rcases v.ackFrame_cases fr with ⟨sent, strm, _, found, same⟩ | ⟨_, same⟩ <;> rw [same]
    · exact ids.same rfl (View.key_set found rfl rfl fun _ => rfl) rfl
    · exact ids.same rfl rfl rfl
  case initial n allowed bound =>
    refine ids.same ?_ (View.key_same rfl) (streamEvents_plain rfl)
    simp only [View.book, View.emit]
  case retry allowed enters stays empty noted =>
    obtain ⟨⟨name, shut⟩, held⟩ := Option.isSome_iff_exists.mp ids.zero
    obtain ⟨rfl, rfl, -, -⟩ := ids.key _ _ _ held
    refine ids.same rfl ?_ ((streamEvents_plain rfl).trans (streamEvents_plain rfl))
    funext i
    by_cases same : i = 0
    · subst same
      rw [held]
      simp [View.key, View.enter, View.setStrm, ngtcp2StrmInit]
    · simp [View.key, View.enter, View.setStrm, View.emit, same]
  all_goals first
    | exact ids.same rfl (View.key_same rfl) (streamEvents_plain rfl)
    | exact ids.same rfl (View.key_same rfl) rfl

end

theorem Started.ids {c : Conn} (first : Started c) : c.view.Ids := by
  have key : ∀ id, c.view.key id = if id = 0 then some (0, false) else none := by
    intro id
    cases first <;> by_cases zero : id = 0 <;>
      simp [View.key, Conn.view, ngtcp2ConnClientNew, ngtcp2ConnServerNew, connNew, zero, ngtcp2StrmInit,
        Strm.view]
  have book : c.view.book.Ok ∧ c.view.book.Taken 0 := by
    cases first with
    | client connId version settings acked =>
      have unopened := ngtcp2IdtrInit_ok true
      refine ⟨⟨unopened, unopened, rfl, rfl, ?_, ?_, ?_, ?_⟩, ?_⟩
      · exact (by decide : 4 % 4 = if false = true then 1 else 0)
      · exact (by decide : 2 % 4 = if false = true then 3 else 2)
      · exact (by decide : 0 < varintBound)
      · exact (by decide : 0 < varintBound)
      · exact (by decide : 0 < 4)
    | server connId version settings acked =>
      have run : ngtcp2IdtrOpen (ngtcp2IdtrInit false) 0 =
          .ok { gap := [{ begin := 1, stop := uint64Max }], server := false } := rfl
      have unopened := ngtcp2IdtrInit_ok false
      obtain ⟨opened, -, -, opens⟩ := ngtcp2IdtrOpen_ok unopened (by decide) run
      refine ⟨⟨opened, unopened, rfl, rfl, ?_, ?_, ?_, ?_⟩, ?_⟩
      · exact (by decide : 1 % 4 = if true = true then 1 else 0)
      · exact (by decide : 3 % 4 = if true = true then 3 else 2)
      · exact (by decide : 0 < varintBound)
      · exact (by decide : 0 < varintBound)
      · exact (opens 0).mpr (.inr rfl)
  have log : c.view.log = [] := by
    cases first <;> rfl
  refine ⟨book.1, fun id name shut held => ?_, by simp [key], ?_, ?_, ?_⟩
  · rw [key] at held
    split at held
    next zero =>
      subst zero
      obtain ⟨rfl, rfl⟩ : 0 = name ∧ false = shut := by simpa using held
      exact ⟨rfl, rfl, by decide, book.2⟩
    next => cases held
  all_goals simp [log, streamEvents]

theorem Runs.ids {acts : List Act} {c : Conn} (run : Runs acts c) : c.view.Ids :=
  run.invariant (C := fun _ => True) (fun _ _ => trivial) (fun _ => Started.ids) (fun _ _ move _ => move.ids) trivial

theorem Conn.streamEvents_view (c : Conn) : streamEvents c.view.log = streamEvents c.log := by
  unfold streamEvents Conn.view
  rw [filter_filter]
  refine filter_congr fun e _ => ?_
  cases e <;> simp [Event.kept, Event.streamId?]

theorem View.Ids.once_log {c : Conn} (ids : c.view.Ids) : c.log.Pairwise Event.Once := by
  have once := ids.once
  rw [c.streamEvents_view] at once
  refine (pairwise_filter.mp once).imp fun {e e'} related => ?_
  by_cases first : e.streamId?.isSome = true
  · by_cases second : e'.streamId?.isSome = true
    · exact related first second
    · refine Event.once_of (fun id code _ named => ?_) fun id _ _ present same => ?_
      · simp [named] at second
      · simp [same, Event.streamId?] at second
  · refine Event.once_of (fun id code same => ?_) fun id present same => ?_ <;>
      simp [same, Event.streamId?] at first

end Ngtcp2
