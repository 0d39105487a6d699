import MiniJ.Diagnostic.Code

/-!
# Explanations of error codes

The long form of every error code: what happened, an example, and what to do about it. Each
explanation is a Markdown page that opens with its code.
-/

set_option autoImplicit false

namespace MiniJ.ErrorCode

/-- A page of lines, each with its line end. -/
def page (lines : List String) : String :=
  String.join (lines.map fun line => line ++ "\n")

/-- The page that explains a code. -/
def explanation : ErrorCode → String
  | invalidCharacter => page
      ["# E0001: Invalid Character",
        "",
        "The scanner met a character that cannot start any token.",
        "",
        "```java",
        "class A \x7b # \x7d",
        "```",
        "",
        "The character is skipped and scanning resumes with the next one, so the",
        "rest of the file is still checked. A syntax error often follows because",
        "the parser now sees a different token sequence.",
        "",
        "## Solution",
        "",
        "Remove the character, or move it inside a string or character literal."]
  | unterminatedComment => page
      ["# E0002: Unterminated Multiline Comment",
        "",
        "A `/*` comment reached the end of the file without a closing `*/`.",
        "",
        "```java",
        "class A \x7b \x7d /* never closed",
        "```",
        "",
        "Scanning stops at this point and the file ends as if the comment were the",
        "last thing in it.",
        "",
        "## Solution",
        "",
        "Close the comment with `*/`."]
  | invalidNumber => page
      ["# E0003: Invalid Character in Number",
        "",
        "A number literal was followed directly by a letter or underscore.",
        "",
        "```java",
        "int x = 12abc;",
        "```",
        "",
        "The digits are still scanned as an integer literal; the letters start the",
        "next token.",
        "",
        "## Solution",
        "",
        "Separate the number from the following word, or rename the identifier so it",
        "does not begin with a digit."]
  | unterminatedCharacter => page
      ["# E0004: Unterminated Character Literal",
        "",
        "A character literal was opened with `'` but the line (or file) ended before",
        "the closing quote.",
        "",
        "```java",
        "char c = 'a",
        ";",
        "```",
        "",
        "## Solution",
        "",
        "Add the closing `'`."]
  | emptyCharacter => page
      ["# E0005: Empty Character Literal",
        "",
        "`''` contains no character.",
        "",
        "```java",
        "char c = '';",
        "```",
        "",
        "A character-literal token is still produced so parsing can continue.",
        "",
        "## Solution",
        "",
        "Put exactly one character between the quotes."]
  | longCharacter => page
      ["# E0006: Character Literal Too Long",
        "",
        "A character literal holds more than one character. There are no escape",
        "sequences, so `'\\n'` is also too long.",
        "",
        "```java",
        "char c = 'ab';",
        "```",
        "",
        "The scanner consumes through the closing quote and produces one",
        "character-literal token.",
        "",
        "## Solution",
        "",
        "Use a single character, or a string literal for longer text."]
  | doubleDot => page
      ["# E0007: Invalid Punctuation `..`",
        "",
        "In the extended dialect, `...` introduces a variadic parameter. Two dots on",
        "their own are not a token.",
        "",
        "```java",
        "void f(int.. xs) \x7b \x7d",
        "```",
        "",
        "Scanning stops at this point.",
        "",
        "## Solution",
        "",
        "Use `...` for a variadic parameter or a single `.` for member access."]
  | unterminatedString => page
      ["# E0008: Unterminated String Literal",
        "",
        "A string literal was opened with `\"` but the file ended before the closing",
        "quote. Strings have no escape sequences and cannot contain `\"`.",
        "",
        "```java",
        "String s = \"hello;",
        "```",
        "",
        "Scanning stops at this point.",
        "",
        "## Solution",
        "",
        "Add the closing `\"`."]
  | unexpectedToken => page
      ["# E1001: Unexpected Token",
        "",
        "The parser needed a particular token and found something else.",
        "",
        "```java",
        "class A \x7b int x \x7d",
        "```",
        "",
        "Here a `;` was expected after the field name. Parsing of the file stops at",
        "the first syntax error; later problems are not reported until this one is",
        "fixed.",
        "",
        "## Solution",
        "",
        "Insert or remove the token named in the message."]
  | typeOrReference => page
      ["# E1002: Type/Reference Conflict",
        "",
        "An identifier chain was used both as a type and as an expression.",
        "",
        "```java",
        "a[5][];    // indexed like a value, then given an array-type suffix",
        "a<T>();    // generic arguments make it a type, which cannot be called",
        "```",
        "",
        "The parser decides what `a.b[...]` means as it reads, without backtracking.",
        "Once a suffix proves the chain is a value, type-only suffixes are rejected,",
        "and the reverse.",
        "",
        "## Solution",
        "",
        "Split the construct so it is clearly a type (in a declaration) or clearly an",
        "expression."]
  | invalidMember => page
      ["# E1003: Invalid Member Declaration",
        "",
        "A class member mixes field and method forms.",
        "",
        "```java",
        "class A \x7b",
        "    void x;            // void is only for methods",
        "    int a, b() \x7b \x7d     // several names are only for fields",
        "\x7d",
        "```",
        "",
        "The mini dialect also rejects field initializers (`int x = 1;`).",
        "",
        "## Solution",
        "",
        "Give fields a type and a single `;`. Give methods one name, a parameter",
        "list, and a body."]
  | invalidTarget => page
      ["# E1004: Invalid Assignment Target",
        "",
        "The left side of `=`, a compound assignment, or `++`/`--` cannot be",
        "assigned.",
        "",
        "```java",
        "int = 5;       // a type, not a variable",
        "f() = 5;       // a call result is read-only",
        "```",
        "",
        "## Solution",
        "",
        "Assign to a variable, field, or array element."]
  | unusedValue => page
      ["# E1005: Reference Value Unused",
        "",
        "An expression statement computes a value and throws it away.",
        "",
        "```java",
        "a;",
        "a.b[5];",
        "```",
        "",
        "Only calls may stand alone as statements, because they can have side",
        "effects.",
        "",
        "## Solution",
        "",
        "Assign the value, pass it to a call, or remove the statement."]
  | typeAsValue => page
      ["# E1006: Type Is Not an Expression",
        "",
        "A type name appeared where a value is required.",
        "",
        "```java",
        "x = int[];",
        "```",
        "",
        "## Solution",
        "",
        "Use a variable, literal, call, or `new` expression."]
  | invalidCall => page
      ["# E1007: Invalid Call Target",
        "",
        "Only names can be called. An indexed element or a generic type cannot be",
        "followed by an argument list.",
        "",
        "```java",
        "a[0]();",
        "```",
        "",
        "## Solution",
        "",
        "Call a method by name, e.g. `a.get(0)`."]

/-- The page for a written code, if there is such a code. -/
def explain? (text : String) : Option String :=
  (ofText? text).map explanation

/-- What is said of a text that is no code. -/
def unknownMessage (text : String) : String :=
  "unknown error code: " ++ text

end MiniJ.ErrorCode
