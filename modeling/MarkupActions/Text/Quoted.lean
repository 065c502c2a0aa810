import MarkupActions.Text.Unseen

/-! Quoted text for diagnostics: between double quotes, with what cannot be seen escaped. -/

namespace MarkupActions.Text

/-- A character in quoted text. Characters that cannot be seen have a short escape or are given by
their code. -/
def escapeQuoted (c : Char) : List Char :=
  if c = '"' ∨ c = '\\' then ['\\', c]
  else if c = '\n' then ['\\', 'n']
  else if c = '\r' then ['\\', 'r']
  else if c = '\t' then ['\\', 't']
  else if c.toNat = 0 then ['\\', '0']
  else if isUnseen c then ['\\', 'u', '{'] ++ Nat.toDigits 16 c.toNat ++ ['}']
  else [c]

def quoted (s : String) : String :=
  String.ofList ('"' :: (s.toList.flatMap escapeQuoted ++ ['"']))

end MarkupActions.Text
