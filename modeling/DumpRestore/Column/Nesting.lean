/-
This file finds the parenthesis that closes an expression. Parentheses inside quotes do not count.
Quotes are apostrophes, quotation marks and backticks; inside a quoted stretch the quote written
twice stands for itself, and a backslash escapes the next character unless the quotes are
backticks. The backtick is the character 0x60.
-/

import DumpRestore.Text.Basic

namespace DumpRestore.Nesting

/-- Whether a character opens a quoted stretch. -/
def isQuote (character : Char) : Bool :=
  character == '\'' || character == '"' || character == '\x60'

/-- Whether a character inside a quoted stretch escapes the next one. -/
def escapes (quote character : Char) : Bool :=
  character == '\\' && quote != '\x60'

/-- How many characters lead up to and include the parenthesis that closes the innermost open one
and `depth` more around it. The quote is the one whose stretch the text starts in. -/
def closingLength? : (depth : Nat) → (quote : Option Char) → Text → Option Nat
  | _, _, [] => none
  | depth, some quote, character :: rest =>
    if escapes quote character then
      match rest with
      | [] => none
      | _ :: after => (closingLength? depth (some quote) after).map (· + 2)
    else if character = quote then
      match rest with
      | [] => none
      | next :: after =>
        if next = quote then (closingLength? depth (some quote) after).map (· + 2)
        else (closingLength? depth none (next :: after)).map (· + 1)
    else (closingLength? depth (some quote) rest).map (· + 1)
  | depth, none, character :: rest =>
    if isQuote character then (closingLength? depth (some character) rest).map (· + 1)
    else if character = '(' then (closingLength? (depth + 1) none rest).map (· + 1)
    else if character = ')' then
      match depth with
      | 0 => some 1
      | outer + 1 => (closingLength? outer none rest).map (· + 1)
    else (closingLength? depth none rest).map (· + 1)

/-- How many characters the group takes whose opening parenthesis starts the text, both
parentheses included. -/
def groupLength? : Text → Option Nat
  | '(' :: rest => (closingLength? 0 none rest).map (· + 1)
  | _ => none

end DumpRestore.Nesting
