/-
This file writes a text between quotes and finds the end of a quoted text. A quote inside the text
is written twice.
-/

namespace ImpalaAdapter.Text

def doubled (quote : Char) (text : List Char) : List Char :=
  text.flatMap fun character => if character = quote then [quote, quote] else [character]

def quoted (quote : Char) (text : String) : String :=
  String.ofList (quote :: doubled quote text.toList ++ [quote])

/-- This scanner starts after the opening quote and stops at the first quote that stands alone.
It gives the text and the characters after the closing quote. -/
def scanQuoted (quote : Char) : List Char → Option (List Char × List Char)
  | [] => none
  | character :: rest =>
      if character = quote then
        match rest with
        | next :: after =>
            if next = quote then
              (scanQuoted quote after).map fun (text, remaining) => (quote :: text, remaining)
            else some ([], rest)
        | [] => some ([], [])
      else
        (scanQuoted quote rest).map fun (text, remaining) => (character :: text, remaining)

end ImpalaAdapter.Text
