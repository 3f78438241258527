import BuildYard.Time.Instant
import BuildYard.Word
/-!
# Spans of time

A span is a length of time in whole seconds, negative when it leads back. Spans are kept in
milliseconds in a word of 64 bits with a sign, so none is longer than 9223372036854775 seconds, which
is still far more than lies between any two instants.
-/

namespace BuildYard

/-- A length of time. -/
structure Span where
  seconds : Int
  /-- Its milliseconds fit the word, forward or back. -/
  bounded : seconds.natAbs * 1000 < wordSize 63

/-- The span of a number of seconds, if there is one. -/
def Span.ofSeconds? (n : Int) : Option Span :=
  if h : n.natAbs * 1000 < wordSize 63 then some ⟨n, h⟩ else none

/-- The instant a span later, if there is one. -/
def Instant.add? (t : Instant) (d : Span) : Option Instant := t.addSeconds? d.seconds

end BuildYard
