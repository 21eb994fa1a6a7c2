/-! A gauge that is written on change. The writer remembers the last level it showed and shows
a level only if it is another one; clearing the gauge, or forgetting what it shows, lets any
level be shown again.
-/

namespace KeypadBridge.Foundation

/-- What happens to a gauge. No level is shown as a blank. -/
inductive GaugeEvent (Level : Type) where
  | shown (level : Option Level)
  /-- The writer forgets what the gauge shows, and the gauge is left alone. -/
  | forgotten

namespace Gauge

variable {Level : Type}

def level : GaugeEvent Level → Option Level
  | .shown level => level
  | .forgotten => none

/-- The level that the gauge shows, unless it was forgotten since. -/
def remembered (events : List (GaugeEvent Level)) : Option Level := events.getLast?.bind level

/-- No level is shown twice in a row. -/
def NoRepeat (events : List (GaugeEvent Level)) : Prop :=
  ∀ before after value,
    events ≠ before ++ .shown (some value) :: .shown (some value) :: after

/-- The writer remembers what the gauge shows, and has never repeated itself. -/
structure Follows (events : List (GaugeEvent Level)) (last : Option Level) : Prop where
  remembered : last = remembered events
  noRepeat : NoRepeat events

/-- What a writer may do in one step. -/
inductive Writes : Option Level → List (GaugeEvent Level) → Option Level → Prop where
  | kept (last : Option Level) : Writes last [] last
  | changed {last : Option Level} (value : Level) (other : last ≠ some value)
    : Writes last [.shown (some value)] (some value)
  | forgotten (last : Option Level) : Writes last [.forgotten] none
  | cleared (last : Option Level) : Writes last [.forgotten, .shown none] none

theorem Follows.nil : Follows ([] : List (GaugeEvent Level)) none where
  remembered := rfl
  noRepeat before after value equal := by simp at equal

/-- One more event repeats nothing unless it shows the remembered level. -/
theorem NoRepeat.append_one {events : List (GaugeEvent Level)} {event : GaugeEvent Level}
    (fresh : NoRepeat events)
    (other : ∀ value, event = .shown (some value) → Gauge.remembered events ≠ some value)
    : NoRepeat (events ++ [event]) := by
  intro before after value equal
  rcases List.eq_nil_or_concat after with rfl | ⟨earlier, last, rfl⟩
  · have split
        : events ++ [event] = (before ++ [.shown (some value)]) ++ [.shown (some value)] := by
      simpa using equal
    obtain ⟨rfl, same⟩ := List.append_inj' split rfl
    exact other value (List.cons.inj same).1 (by simp [Gauge.remembered, level])
  · have split
        : events ++ [event]
          = (before ++ .shown (some value) :: .shown (some value) :: earlier) ++ [last] := by
      simpa using equal
    obtain ⟨rfl, _⟩ := List.append_inj' split rfl
    exact fresh before earlier value rfl

/-- An event that shows no level can follow anything. -/
theorem NoRepeat.append_blank {events : List (GaugeEvent Level)} {event : GaugeEvent Level}
    (fresh : NoRepeat events) (blank : level event = none)
    : NoRepeat (events ++ [event]) :=
  fresh.append_one fun value shown => by simp [shown, level] at blank

/-- Whatever the writer does next, it goes on remembering what the gauge shows. -/
theorem Follows.writes {events more : List (GaugeEvent Level)} {last next : Option Level}
    (follows : Follows events last) (writes : Writes last more next)
    : Follows (events ++ more) next := by
  obtain ⟨rfl, fresh⟩ := follows
  cases writes with
  | kept => simpa using ⟨rfl, fresh⟩
  | changed value other =>
      refine ⟨by simp [Gauge.remembered, level], fresh.append_one ?_⟩
      rintro shown ⟨⟩
      exact other
  | forgotten => exact ⟨by simp [Gauge.remembered, level], fresh.append_blank rfl⟩
  | cleared =>
      have once : NoRepeat (events ++ [.forgotten]) := fresh.append_blank rfl
      refine ⟨by simp [Gauge.remembered, level], ?_⟩
      simpa using NoRepeat.append_blank once (show level (.shown none) = none from rfl)

end Gauge

end KeypadBridge.Foundation
