import Ngtcp2.Machine.Move

namespace Ngtcp2

open Prog Relation

def Reaches (sc : Scope) (s t : Conn) : Prop := ReflTransGen (Move sc) s.view t.view

def Fails (sc : Scope) (e : Err) (s t : Conn) : Prop := e.fatal = true ∨ Reaches sc s t

def Passes (sc : Scope) (s t : Conn) : Prop :=
  ∀ owed, ReflTransGen (Move sc) { s.view with owed := owed } { t.view with owed := owed }

def SameView (s t : Conn) : Prop := t.view = s.view

variable {sc : Scope} {α β : Type}

instance : Path (Reaches sc) (Fails sc) where
  refl _ := .refl
  trans := ReflTransGen.trans
  stop := Or.inr
  after reached := Or.imp_right (ReflTransGen.trans reached)

instance : Path (Passes sc) (fun _ : Err => Passes sc) where
  refl _ _ := .refl
  trans first second owed := (first owed).trans (second owed)
  stop := id
  after first second owed := (first owed).trans (second owed)

instance : Path SameView (fun _ : Err => SameView) where
  refl _ := rfl
  trans first second := Eq.trans second first
  stop same := same
  after first second := Eq.trans second first

theorem Reaches.of_same {s t : Conn} (same : SameView s t) : Reaches sc s t := by
  unfold Reaches
  rw [same]

theorem Reaches.of_move {s t : Conn} (move : Move sc s.view t.view) : Reaches sc s t :=
  .single move

theorem Passes.reaches {s t : Conn} (passes : Passes sc s t) : Reaches sc s t := passes 0

theorem Passes.of_same {s t : Conn} (same : SameView s t) : Passes sc s t := by
  intro owed
  rw [same]

theorem Passes.of_move {s t : Conn} (move : ∀ owed, Move sc { s.view with owed := owed } { t.view with owed := owed }) :
    Passes sc s t := fun owed => .single (move owed)

theorem Reaches.server {s t : Conn} (reaches : Reaches sc s t) : t.server = s.server :=
  Move.server_run reaches

theorem Reaches.entered {s t : Conn} (reaches : Reaches sc s t) :
    t.state = s.state ∨ sc.become t.state :=
  Move.entered_run reaches

theorem Reaches.steady {s t : Conn} (reaches : Reaches sc s t) (none : ∀ state, ¬ sc.become state) :
    t.state = s.state :=
  reaches.entered.resolve_right (none _)

theorem SameView.state {s t : Conn} (same : SameView s t) : t.state = s.state :=
  congrArg View.state same

theorem goes_fatal {m : ConnM α} {s t : Conn} {e : Err} (run : m s = (.error e, t))
    (fatal : e.fatal = true) : Goes (Reaches sc) (Fails sc) m s := by
  unfold Goes wp
  rw [run]
  exact .inl fatal

def Does (sc : Scope) (m : ConnM α) : Prop := ∀ s, Goes (Reaches sc) (Fails sc) m s

def Always (sc : Scope) (m : ConnM α) : Prop :=
  ∀ s, Goes (Passes sc) (fun _ => Passes sc) m s

def Still (m : ConnM α) : Prop := ∀ s, Goes SameView (fun _ => SameView) m s

namespace Still

theorem pure (a : α) : Still (Pure.pure a) := fun _ => .done a

theorem throw (e : Err) : Still (throw e : ConnM α) := fun _ => .failed e

theorem bind {m : ConnM α} {f : α → ConnM β} (first : Still m) (second : ∀ a, Still (f a)) :
    Still (m >>= f) :=
  fun s => .seq (first s) fun a t _ => second a t

theorem get {f : Conn → ConnM α} (rest : ∀ c, Still (f c)) : Still (MonadState.get >>= f) :=
  fun s => .got (rest s s)

theorem modify {f : Conn → Conn} (same : ∀ c, (f c).view = c.view) : Still (modify f) :=
  fun s => .modified (same s)

end Still

theorem Still.does {m : ConnM α} (still : Still m) : Does sc m :=
  fun s => wp_mono (still s) (fun _ _ same => .of_same same) fun _ _ same => .inr (.of_same same)

theorem Still.always {m : ConnM α} (still : Still m) : Always sc m :=
  fun s => wp_mono (still s) (fun _ _ same => .of_same same) fun _ _ same => .of_same same

theorem Always.does {m : ConnM α} (always : Always sc m) : Does sc m :=
  fun s => wp_mono (always s) (fun _ _ passes => passes.reaches) fun _ _ passes => .inr passes.reaches

theorem Always.attempt {m : ConnM α} {f : Except Err α → ConnM β} (first : Always sc m)
    (second : ∀ r, Does sc (f r)) : Does sc (Prog.attempt m >>= f) := by
  intro s
  have ran : Goes (Reaches sc) (fun _ => Reaches sc) m s :=
    wp_mono (first s) (fun _ _ passes => passes.reaches) fun _ _ passes => passes.reaches
  exact ran.attempted (fun a t _ => second _ t) fun e t _ reached => (second (.error e) t).after reached

namespace Does

theorem pure (a : α) : Does sc (Pure.pure a) := (Still.pure a).does

theorem throw (e : Err) : Does sc (throw e : ConnM α) := (Still.throw e).does

theorem bind {m : ConnM α} {f : α → ConnM β} (first : Does sc m) (second : ∀ a, Does sc (f a)) :
    Does sc (m >>= f) :=
  fun s => .seq (first s) fun a t _ => second a t

theorem get {f : Conn → ConnM α} (rest : ∀ c, Does sc (f c)) : Does sc (MonadState.get >>= f) :=
  fun s => .got (rest s s)

theorem same {f : Conn → Conn} (same : ∀ c, (f c).view = c.view) : Does sc (modify f) :=
  (Still.modify same).does

theorem move {f : Conn → Conn} (move : ∀ c, Move sc c.view (f c).view) : Does sc (modify f) :=
  fun s => .modified (.of_move (move s))

end Does

end Ngtcp2
