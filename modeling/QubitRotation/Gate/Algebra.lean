import QubitRotation.Fault

/-!
# Fusing two rotations about one axis

`Gate.fuse` adds the angles of two gates about the same axis and refuses any other pair.
-/

namespace QubitRotation.Gate

/-- The single rotation that two rotations about the same axis amount to, with its angle in
`[0, 360)`. -/
def fuse (first second : Gate) : Except Fault Gate :=
  if first.axis = second.axis then
    .ok ⟨first.axis, first.angle.plus second.angle⟩
  else
    .error (.incompatibleAxes first.axis second.axis)

theorem fuse_of_axis_eq {first second : Gate} (same : first.axis = second.axis) :
    first.fuse second = .ok ⟨first.axis, first.angle.plus second.angle⟩ :=
  if_pos same

theorem fuse_of_axis_ne {first second : Gate} (different : first.axis ≠ second.axis) :
    first.fuse second = .error (.incompatibleAxes first.axis second.axis) :=
  if_neg different

end QubitRotation.Gate
