import Folio.Pattern.Basic

/-!
# The room that patterns take

A program that matches a pattern octet by octet has a step for every octet of a character and for
every run of octets in a class, so that the classes of all scripts make a pattern large. Patterns
are refused from a certain size on.
-/

namespace Folio

/-- The room of one step, in octets. -/
def stepRoom : Nat := 32

namespace CharClass

mutual

/-- The room of a class. Those that go through all scripts were measured. -/
def room : CharClass → Nat
  | .single c => stepRoom * c.utf8Size
  | .range first last => stepRoom * (first.utf8Size + last.utf8Size)
  | .digit => 5116
  | .word => 49958
  | .blank => 680
  | .anyInLine => 1000
  | .union classes => stepRoom + roomAll classes
  | .complement inner => stepRoom + room inner
  | .combined _ first second => stepRoom + room first + room second

/-- The room of some classes together. -/
def roomAll : List CharClass → Nat
  | [] => 0
  | first :: rest => room first + roomAll rest

end

end CharClass

namespace Pattern

/-- The room of a pattern. -/
def room : Pattern → Nat
  | .empty => stepRoom
  | .one inClass => inClass.room
  | .here _ => stepRoom
  | .sequence first second => first.room + second.room
  | .either first second => stepRoom + first.room + second.room
  | .group _ inner => inner.room
  | .optional _ inner => 2 * stepRoom + inner.room
  | .repeatAny _ inner => 2 * stepRoom + inner.room
  | .repeatSome _ inner => stepRoom + inner.room

/-- The room that a pattern may take. -/
def largestRoom : Nat := 10 * 1024 * 1024

end Pattern

end Folio
