import CatalogSearch.Text.Digit
import CatalogSearch.Text.Visible

/-! # Quoted text

Text inside messages stands between double quotes. The quote and the backslash are escaped, the
usual controls have their letters, and any other character that is not visible on its own is
written by its code point: `\u{301}`. Single quotes stay. -/

namespace CatalogSearch.Text

/-- One character as it stands inside quotes. -/
def quoteChar (c : Char) : List Char :=
  match c with
  | '\x00' => ['\\', '0']
  | '\t' => ['\\', 't']
  | '\r' => ['\\', 'r']
  | '\n' => ['\\', 'n']
  | '"' => ['\\', '"']
  | '\\' => ['\\', '\\']
  | c => if isVisible c then [c] else ['\\', 'u', '\x7b'] ++ hexDigits c.toNat ++ ['\x7d']

/-- A text in double quotes. -/
def quote (cs : List Char) : List Char := '"' :: cs.flatMap quoteChar ++ ['"']

/-- A `String` in double quotes. -/
def quoted (s : String) : String := String.ofList (quote s.toList)

/-- Quoting an empty text gives the two quotes. -/
@[simp] theorem quote_nil : quote [] = ['"', '"'] := rfl

end CatalogSearch.Text
