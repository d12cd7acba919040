import Mathlib.Data.List.Basic

/-!
# Event logs

Entities that have a state or do not exist yet, and the log of the events published about them. A change
`Extends` a log when the events it appends about an entity lead, one after the other, from the state the
entity had to the state it has. Changes compose, so the whole log of a run that starts with nothing
replays to the present state of every entity.
-/

namespace EventLog

structure Log (Key State Event : Type) where
  state : Key → Option State
  events : List Event

variable {Key State Event : Type} [DecidableEq Key]
variable (next : Option State → Event → Option State) (about : Event → Key)

/-- Let the events happen one after the other; nothing where one of them cannot happen. -/
def replay (state : Option State) (events : List Event) : Option (Option State) :=
  events.foldlM (fun state event => (next state event).map some) state

def eventsAbout (key : Key) (events : List Event) : List Event := events.filter fun event => about event = key

/-- The later log has more events, which account for the change of every entity's state. -/
def Extends (log later : Log Key State Event) : Prop :=
  ∃ appended, later.events = log.events ++ appended ∧
    ∀ key, replay next (log.state key) (eventsAbout about key appended) = some (later.state key)

variable {next about} {state state' : Option State} {event : Event} {events : List Event}

theorem replay_cons : replay next state (event :: events) =
    (next state event).bind fun state' => replay next (some state') events := by
  rw [replay, List.foldlM_cons]
  cases next state event <;> rfl

theorem replay_append (later : List Event) (h : replay next state events = some state') :
    replay next state (events ++ later) = replay next state' later := by
  rw [replay, List.foldlM_append]
  exact congrArg (fun result => result >>= fun state => replay next state later) h

theorem eventsAbout_append (key : Key) (events later : List Event) :
    eventsAbout about key (events ++ later) = eventsAbout about key events ++ eventsAbout about key later :=
  List.filter_append ..

theorem eventsAbout_eq_self {key : Key} (h : ∀ event ∈ events, about event = key) :
    eventsAbout about key events = events :=
  List.filter_eq_self.mpr fun event hevent => decide_eq_true (h event hevent)

theorem eventsAbout_eq_nil {key : Key} (h : ∀ event ∈ events, about event ≠ key) :
    eventsAbout about key events = [] :=
  List.filter_eq_nil_iff.mpr fun event hevent habout => h event hevent (of_decide_eq_true habout)

variable {log middle later : Log Key State Event}

theorem Extends.refl (log : Log Key State Event) : Extends next about log log :=
  ⟨[], (List.append_nil _).symm, fun _ => rfl⟩

theorem Extends.trans (hfirst : Extends next about log middle) (hrest : Extends next about middle later) :
    Extends next about log later := by
  obtain ⟨first, hfirstEvents, hfirst⟩ := hfirst
  obtain ⟨rest, hrestEvents, hrest⟩ := hrest
  refine ⟨first ++ rest, ?_, fun key => ?_⟩
  · rw [hrestEvents, hfirstEvents, List.append_assoc]
  · rw [eventsAbout_append, replay_append _ (hfirst key)]
    exact hrest key

/-- A log that started with nothing replays to the state of every entity. -/
theorem Extends.replay_eq (h : Extends next about log later) (hstate : ∀ key, log.state key = none)
    (hevents : log.events = []) (key : Key) :
    replay next none (eventsAbout about key later.events) = some (later.state key) := by
  obtain ⟨appended, happended, hreplay⟩ := h
  rw [happended, hevents, List.nil_append, ← hstate key]
  exact hreplay key

end EventLog
