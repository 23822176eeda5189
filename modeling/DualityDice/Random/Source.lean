/-!
Sources of draws. A draw is made within bounds, so a die that cannot be rolled
cannot be asked for. `Traced` notes the draws of another source.
-/

namespace DualityDice

structure Bounds where
  low : UInt32
  high : UInt32
  low_le_high : low ≤ high
deriving DecidableEq

def Bounds.of? (low high : UInt32) : Option Bounds :=
  if h : low ≤ high then some ⟨low, high, h⟩ else none

/-- Where the dice values come from: a state that gives one value after
another. -/
class Source (σ : Type) where
  draw : Bounds → σ → UInt32 × σ

def Source.drawAll {σ : Type} [Source σ] : List Bounds → σ → List UInt32 × σ
  | [], source => ([], source)
  | bounds :: rest, source =>
      let (value, source) := draw bounds source
      let (values, source) := drawAll rest source
      (value :: values, source)

structure Draw where
  bounds : Bounds
  value : UInt32
deriving DecidableEq

/-- A source together with the draws made from it, the latest first. -/
structure Traced (σ : Type) where
  source : σ
  latestFirst : List Draw := []

namespace Traced

def draws {σ : Type} (traced : Traced σ) : List Draw :=
  traced.latestFirst.reverse

def forget {σ : Type} (traced : Traced σ) : Traced σ :=
  ⟨traced.source, []⟩

instance {σ : Type} [Source σ] : Source (Traced σ) where
  draw bounds traced :=
    let (value, source) := Source.draw bounds traced.source
    (value, ⟨source, ⟨bounds, value⟩ :: traced.latestFirst⟩)

theorem draw_value {σ : Type} [Source σ] (bounds : Bounds) (traced : Traced σ) :
    (Source.draw bounds traced).1 = (Source.draw bounds traced.source).1 := rfl

theorem draw_source {σ : Type} [Source σ] (bounds : Bounds) (traced : Traced σ) :
    (Source.draw bounds traced).2.source = (Source.draw bounds traced.source).2 := rfl

theorem draws_draw {σ : Type} [Source σ] (bounds : Bounds) (traced : Traced σ) :
    (Source.draw bounds traced).2.draws =
      traced.draws ++ [⟨bounds, (Source.draw bounds traced.source).1⟩] := by
  simp [draws, Source.draw]

end Traced

end DualityDice
