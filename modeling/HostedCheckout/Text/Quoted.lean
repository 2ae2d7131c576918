import HostedCheckout.Text.Unprintable

/-!
# Quoted text

Diagnostics quote the texts they name.  A quotation stands between double
quotes; the characters NUL, tab, line feed, carriage return, double quote and
backslash have a short escape, and a character that cannot be shown is written
by its number, `\\u{301}`.
-/

namespace HostedCheckout.Text

/-- Lowercase hexadecimal digits of a number, without leading zeros. -/
def hexadecimalDigits (number : Nat) : List Char :=
  Nat.toDigits 16 number

/-- How one character is written inside a quotation. -/
def quoteChar (character : Char) : List Char :=
  match character with
  | '\x00' => ['\\', '0']
  | '\t' => ['\\', 't']
  | '\n' => ['\\', 'n']
  | '\r' => ['\\', 'r']
  | '"' => ['\\', '"']
  | '\\' => ['\\', '\\']
  | _ =>
      if unprintable.contains character then
        ['\\', 'u', '\x7b'] ++ hexadecimalDigits character.toNat ++ ['\x7d']
      else [character]

/-- A text between double quotes, with its escapes. -/
def quoted (text : String) : String :=
  String.ofList ('"' :: text.toList.flatMap quoteChar ++ ['"'])

end HostedCheckout.Text
