import KeyValueClient.Request.Wire

/-!
# Requests in a row

The bytes of some requests, one after the other, are what a connection owes its peer.

Main results:

- Theorem `Request.wire_ne_nil`: no request is written as nothing.
- Theorem `Request.wireAll_eq_nil_iff`: only no requests at all are.
-/

namespace KeyValueClient.Request

/-- No request is written as nothing. -/
theorem wire_ne_nil (encoding : Encoding) (r : Request) : r.wire encoding ≠ [] := by
  have hcounted : r.counted ≠ [] := by
    simp [counted, Wire.line]
  cases encoding with
  | counted => exact hcounted
  | shaped =>
    simp only [wire, shaped]
    split
    · exact hcounted
    · split
      · simp [withValue]
      · simp [Bytes.crlf]

/-- The bytes of some requests, one after the other. -/
def wireAll (encoding : Encoding) (requests : List Request) : Bytes :=
  requests.flatMap (wire encoding)

section WireAll

variable (encoding : Encoding) (first second : List Request) (r : Request)

@[simp]
theorem wireAll_nil : wireAll encoding [] = [] :=
  rfl

@[simp]
theorem wireAll_append :
    wireAll encoding (first ++ second) = wireAll encoding first ++ wireAll encoding second :=
  List.flatMap_append

@[simp]
theorem wireAll_singleton : wireAll encoding [r] = r.wire encoding := by
  simp [wireAll]

/-- Only no requests at all are written as nothing. -/
theorem wireAll_eq_nil_iff : wireAll encoding first = [] ↔ first = [] := by
  constructor
  · intro h
    cases first with
    | nil => rfl
    | cons r rest =>
      have hwire : r.wire encoding = [] := List.flatMap_eq_nil_iff.1 h r List.mem_cons_self
      exact absurd hwire (wire_ne_nil encoding r)
  · rintro rfl
    rfl

/-- The bytes of the first requests are the first bytes. -/
theorem isPrefix_wireAll_take {m n : Nat} (h : m ≤ n) :
    wireAll encoding (first.take m) <+: wireAll encoding (first.take n) := by
  rcases List.take_prefix_take_left h (l := first) with ⟨between, hbetween⟩
  rw [← hbetween, wireAll_append]
  exact List.prefix_append _ _

end WireAll

end KeyValueClient.Request
