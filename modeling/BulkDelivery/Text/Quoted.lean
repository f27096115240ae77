import BulkDelivery.Bytes.Hex
import BulkDelivery.Text.Visible

/-!
# Names in quotation marks

Where a value is shown for inspection, a text in it stands between quotation marks.
Quotation marks, backslashes and the common control characters are written with a
backslash, other characters that are not visible by their number.

## Main definitions

* `inspected s` — the text of `s` between quotation marks.
* `inspectedList xs` — such texts in brackets, separated by commas.
-/

namespace BulkDelivery

/-- The hexadecimal digits of a number without leading zeros, at least one. -/
def plainHex (n : Nat) : List Char :=
  match (hexDigits 6 n).dropWhile (· == '0') with
  | [] => ['0']
  | digits => digits

/-- A character as it stands between quotation marks. -/
def inspectedChar (c : Char) : List Char :=
  if c = '"' then ['\\', '"']
  else if c = '\\' then ['\\', '\\']
  else if c = '\n' then ['\\', 'n']
  else if c = '\r' then ['\\', 'r']
  else if c = '\t' then ['\\', 't']
  else if c = '\x00' then ['\\', '0']
  else if isVisible c then [c]
  else ['\\', 'u', '\x7b'] ++ plainHex c.toNat ++ ['\x7d']

/-- A text between quotation marks. -/
def inspected (s : String) : String :=
  String.ofList ('"' :: s.toList.flatMap inspectedChar ++ ['"'])

/-- Texts between quotation marks, in brackets. -/
def inspectedList (xs : List String) : String :=
  "[" ++ String.intercalate ", " (xs.map inspected) ++ "]"

end BulkDelivery
