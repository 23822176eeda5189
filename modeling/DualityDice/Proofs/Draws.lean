import DualityDice.Roll

/-!
The draws of a request: how many it makes, within which bounds, and what it
makes of their values. By `rollTimes_eq_drawAll` a roll is told by the values
drawn, whatever source they come from.
-/

namespace DualityDice

section

variable {σ : Type} [Source σ]

namespace Source

theorem drawAll_cons (bounds : Bounds) (rest : List Bounds) (source : σ) :
    drawAll (bounds :: rest) source =
      ((draw bounds source).1 :: (drawAll rest (draw bounds source).2).1,
        (drawAll rest (draw bounds source).2).2) := rfl

theorem drawAll_append (first rest : List Bounds) (source : σ) :
    drawAll (first ++ rest) source =
      ((drawAll first source).1 ++ (drawAll rest (drawAll first source).2).1,
        (drawAll rest (drawAll first source).2).2) := by
  induction first generalizing source with
  | nil => rfl
  | cons bounds first ih => simp [drawAll_cons, ih]

theorem length_drawAll (bounds : List Bounds) (source : σ) :
    (drawAll bounds source).1.length = bounds.length := by
  induction bounds generalizing source with
  | nil => rfl
  | cons first rest ih => simp [drawAll_cons, ih]

end Source

namespace Traced

theorem drawAll_eq (bounds : List Bounds) (traced : Traced σ) :
    (Source.drawAll bounds traced).1 = (Source.drawAll bounds traced.source).1 ∧
      (Source.drawAll bounds traced).2.source =
        (Source.drawAll bounds traced.source).2 := by
  induction bounds generalizing traced with
  | nil => exact ⟨rfl, rfl⟩
  | cons first rest ih =>
      obtain ⟨hvalues, hsource⟩ := ih (Source.draw first traced).2
      rw [draw_source] at hvalues hsource
      simp only [Source.drawAll_cons, draw_value]
      exact ⟨by rw [hvalues], hsource⟩

theorem draws_drawAll (bounds : List Bounds) (traced : Traced σ) :
    (Source.drawAll bounds traced).2.draws =
      traced.draws ++ List.zipWith Draw.mk bounds (Source.drawAll bounds traced.source).1 := by
  induction bounds generalizing traced with
  | nil => simp [Source.drawAll]
  | cons first rest ih =>
      simp only [Source.drawAll_cons, List.zipWith_cons_cons]
      rw [ih, draws_draw, draw_source]
      simp

theorem length_draws_drawAll (bounds : List Bounds) (traced : Traced σ) :
    (Source.drawAll bounds traced).2.draws.length = traced.draws.length + bounds.length := by
  rw [draws_drawAll, List.length_append, List.length_zipWith, Source.length_drawAll,
    Nat.min_self]

end Traced

def RollType.modifierOf (value : UInt32) : RollType → Int32
  | .normal => 0
  | .advantage => value.toInt32
  | .disadvantage => -value.toInt32

namespace Request

def drawnOnce (request : Request) : List Bounds :=
  match request.rollType with
  | .normal => [fearBounds, request.hopeDie.bounds]
  | _ => [fearBounds, request.hopeDie.bounds, request.modifierDie.bounds]

def drawnTimes (request : Request) (n : Nat) : List Bounds :=
  (List.replicate n request.drawnOnce).flatten

def outcomeOf (request : Request) (values : List UInt32) : Outcome where
  fearValue := values.getD 0 0
  hopeValue := values.getD 1 0
  hopeDie := request.hopeDie
  modifierDie := request.modifierDie
  modifierValue := request.rollType.modifierOf (values.getD 2 0)
  flatModifier := request.flatModifier

/-- The outcomes of several rolls, each of which takes its values from the
start of what the ones before it leave. -/
def outcomesOf (request : Request) : Nat → List UInt32 → List Outcome
  | 0, _ => []
  | n + 1, values =>
      request.outcomeOf (values.take request.drawnOnce.length) ::
        request.outcomesOf n (values.drop request.drawnOnce.length)

theorem length_drawnOnce (request : Request) :
    request.drawnOnce.length = if request.rollType = .normal then 2 else 3 := by
  unfold drawnOnce
  cases request.rollType <;> rfl

theorem drawnTimes_succ (request : Request) (n : Nat) :
    request.drawnTimes (n + 1) = request.drawnOnce ++ request.drawnTimes n := by
  rw [drawnTimes, List.replicate_succ, List.flatten_cons, drawnTimes]

theorem length_drawnTimes (request : Request) (n : Nat) :
    (request.drawnTimes n).length = n * if request.rollType = .normal then 2 else 3 := by
  rw [drawnTimes, List.length_flatten, List.map_replicate, List.sum_replicate_nat,
    length_drawnOnce]

theorem rollOnce_eq_drawAll (request : Request) (source : σ) :
    request.rollOnce source =
      (request.outcomeOf (Source.drawAll request.drawnOnce source).1,
        (Source.drawAll request.drawnOnce source).2) := by
  unfold rollOnce rollModifier drawnOnce outcomeOf
  cases request.rollType <;> rfl

theorem rollTimes_succ (request : Request) (n : Nat) (source : σ) :
    request.rollTimes (n + 1) source =
      ((request.rollOnce source).1 :: (request.rollTimes n (request.rollOnce source).2).1,
        (request.rollTimes n (request.rollOnce source).2).2) := rfl

theorem length_rollTimes (request : Request) (n : Nat) (source : σ) :
    (request.rollTimes n source).1.length = n := by
  induction n generalizing source with
  | zero => rfl
  | succ n ih => rw [rollTimes_succ, List.length_cons, ih]

/-- Several rolls draw all that they need in turn, and their outcomes hang on
the values drawn alone. -/
theorem rollTimes_eq_drawAll (request : Request) (n : Nat) (source : σ) :
    request.rollTimes n source =
      (request.outcomesOf n (Source.drawAll (request.drawnTimes n) source).1,
        (Source.drawAll (request.drawnTimes n) source).2) := by
  induction n generalizing source with
  | zero => rfl
  | succ n ih =>
      have hlength : request.drawnOnce.length =
          (Source.drawAll request.drawnOnce source).1.length := by
        rw [Source.length_drawAll]
      rw [rollTimes_succ, rollOnce_eq_drawAll, ih, drawnTimes_succ, Source.drawAll_append,
        outcomesOf, hlength, List.take_left, List.drop_left]

end Request

end

end DualityDice
