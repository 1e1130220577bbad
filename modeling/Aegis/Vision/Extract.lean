import Aegis.Vision.Band

/-!
# From colour points to a frame

`BrainCVService._single_line_y` and `extract_frame_state`, from the contour centres that
OpenCV finds for each colour on.  A colour without a contour near the right edge gives
`None`.
-/

namespace Aegis.Vision

open Aegis.Rulebook

variable {α : Type} [LinearOrder α]

def singleLineY (fl : ℚ →o α) (points : List Point) : Option α :=
  match rightmostYValues points with
  | [] => none
  | y :: ys => some (meanHeight fl (y :: ys))

/-- What `_find_color_points` finds for the colours whose lines the engine reads.  The
price bands are mapped by the configuration, or not. -/
structure ColorPoints where
  band1 : List Point
  band2 : List Point
  ma4 : List Point
  cci5 : List Point
  rsi6 : List Point
  band7 : Option (List Point)
  band8 : Option (List Point)
  bullish : List Point
  bearish : List Point

def extractFrameState (fl : ℚ →o α) (points : ColorPoints) : FrameState α where
  band1 := bandUlm fl points.band1
  band2 := bandUlm fl points.band2
  ma4 := singleLineY fl points.ma4
  cci5 := singleLineY fl points.cci5
  rsi6 := singleLineY fl points.rsi6
  priceClose := singleLineY fl (points.bullish ++ points.bearish)
  priceBand7 := points.band7.bind (bandUlm fl)
  priceBand8 := points.band8.bind (bandUlm fl)

/-- A screenshot without a trace of any colour. -/
def noPoints : ColorPoints := ⟨[], [], [], [], [], some [], some [], [], []⟩

end Aegis.Vision
