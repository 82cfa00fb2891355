import Krometrail.Privacy.Redactor

/-!
# What a run of the redactor emits

The output of a run is what its turns emit, one after the other, and its count is zero exactly when every turn counts
nothing.
-/

namespace Krometrail.Privacy

/-- What the turns over the segments emit. -/
def Carry.emitted : Carry → List Str → Str
  | _, [] => []
  | carry, segment :: segments =>
    (carry.step segment (nextToken segments)).text ++
      (carry.step segment (nextToken segments)).carry.emitted segments

/-- No turn over the segments counts a redaction. -/
def Carry.Quiet : Carry → List Str → Prop
  | _, [] => True
  | carry, segment :: segments =>
    (carry.step segment (nextToken segments)).count = 0 ∧
      (carry.step segment (nextToken segments)).carry.Quiet segments

end Krometrail.Privacy
