/-!
# The severity scale

Syslog severities run from 0, an emergency, to 7, a debugging message: the larger the number, the
less severe the message.
-/

namespace NodeInventory.SeverityScale

/-- The keywords of the scale, most severe first; a keyword's place is its severity. -/
def keywords : List String :=
  ["emerg", "alert", "crit", "err", "warning", "notice", "info", "debug"]

/-- The least severe bound that is included unless asked otherwise. -/
def leastSevere : Int := 7

/-- The most severe bound that is included unless asked otherwise. -/
def mostSevere : Int := 0

/-- The severity of a keyword in lower case. -/
def rank? (keyword : String) : Option Nat := keywords.idxOf? keyword

end NodeInventory.SeverityScale
