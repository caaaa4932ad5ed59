/-
# PCI addresses

A function of a PCI device is addressed by domain, bus, device and function number, written in
hexadecimal as in `0000:01:00.0`: four digits, two digits, two digits and one digit below eight.
The digits are ASCII, in either case, and nothing stands before or after them.
-/

namespace SingleRoot.Pci

/-- An ASCII hexadecimal digit, in either case. -/
def isHexDigit (c : Char) : Bool :=
  ('0' ≤ c && c ≤ '9') || ('a' ≤ c && c ≤ 'f') || ('A' ≤ c && c ≤ 'F')

/-- A function number: a PCI device has at most eight functions. -/
def isFunctionDigit (c : Char) : Bool :=
  '0' ≤ c && c ≤ '7'

/-- Whether a list of characters is the address of a PCI function. -/
def isAddress : List Char → Bool
  | [m₁, m₂, m₃, m₄, ':', b₁, b₂, ':', d₁, d₂, '.', f] =>
    [m₁, m₂, m₃, m₄, b₁, b₂, d₁, d₂].all isHexDigit && isFunctionDigit f
  | _ => false

/-- Whether a text is the address of a PCI function. -/
def isAddressText (text : String) : Bool :=
  isAddress text.toList

end SingleRoot.Pci
