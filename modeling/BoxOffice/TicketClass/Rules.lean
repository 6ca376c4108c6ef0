import BoxOffice.Refusal
import BoxOffice.Text.Blank
import BoxOffice.Text.Uppercase
import BoxOffice.TicketClass

/-!
The rules for what a ticket class may hold: a name of at most 255 characters, a price in
hundredths below ten thousand million, a currency code of three letters, and a sale window that
does not end before it starts. Blanks around names and codes do not count.
-/

namespace BoxOffice.TicketClass

/-- A rule that is broken when a condition holds. -/
def refuseIf (broken : Bool) (reason : Invalid) : Except Invalid Unit :=
  if broken then .error reason else .ok ()

def isBlankText (s : String) : Bool := Text.trim s = ""

def longestName : Nat := 255

def checkName (name : String) : Except Invalid Unit :=
  refuseIf (longestName < (Text.trim name).length) .nameTooLong

/-- Ten thousand million. -/
def priceLimit : Decimal := ⟨false, 10000000000, 0, by decide, by decide⟩

def checkPrice (price : Decimal) : Except Invalid Unit := do
  refuseIf price.negative .priceNegative
  refuseIf (priceLimit.valueLe price) .priceTooLarge
  refuseIf (2 < price.scale && !(price.round 2).valueEq price) .priceTooFine

def isCurrencyCode (code : String) : Bool := code.length = 3 && code.toList.all Char.isAlpha

def checkCurrency (currency : String) : Except Invalid Unit :=
  let code := Text.trim currency
  refuseIf (!isCurrencyCode code) (.currencyNoCode code)

def checkTotal (total : Quantity) : Except Invalid Unit := refuseIf (total ≤ 0) .totalNotPositive

def checkWindow : Option Instant → Option Instant → Except Invalid Unit
  | some start, some finish => refuseIf (finish < start) .windowInverted
  | _, _ => .ok ()

def normalName (name : String) : String := Text.trim name

/-- A currency code without blanks around it, in upper case. -/
def normalCurrency (currency : String) : String :=
  String.ofList (Text.upper (Text.trimChars currency.toList))

end BoxOffice.TicketClass
