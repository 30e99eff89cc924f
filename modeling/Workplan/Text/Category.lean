/-
# `Workplan.Text.Category` — classes of characters built from the tables

The groups of general categories, the derived properties that rest on them, and the characters
that may stand in a text for themselves.
-/
import Workplan.Text.CategoryTable
import Workplan.Text.PropertyTable

namespace Workplan.Text.Category

/-- Characters that some of the sets hold. -/
def anyOf (sets : List Ranges) (c : Char) : Bool := sets.any fun r => r.contains c

def isLetter : Char → Bool :=
  anyOf [uppercaseLetter, lowercaseLetter, titlecaseLetter, modifierLetter, otherLetter]

def isMark : Char → Bool := anyOf [nonspacingMark, spacingMark, enclosingMark]

def isNumber : Char → Bool := anyOf [decimalNumber, letterNumber, otherNumber]

def isPunctuation : Char → Bool :=
  anyOf [connectorPunctuation, dashPunctuation, openPunctuation, closePunctuation,
    initialPunctuation, finalPunctuation, otherPunctuation]

def isSymbol : Char → Bool := anyOf [mathSymbol, currencySymbol, modifierSymbol, otherSymbol]

def isSeparator : Char → Bool := anyOf [spaceSeparator, lineSeparator, paragraphSeparator]

/-- Characters of a category other than those of characters that are not assigned. -/
def isAssigned (c : Char) : Bool :=
  isLetter c || isMark c || isNumber c || isPunctuation c || isSymbol c || isSeparator c ||
    anyOf [control, format, privateUse] c

/-- The category Other: controls, formats, private use and what is not assigned. -/
def isOther (c : Char) : Bool := anyOf [control, format, privateUse] c || !isAssigned c

/-- The property Alphabetic. -/
def isAlphabetic (c : Char) : Bool :=
  isLetter c || letterNumber.contains c || Property.otherAlphabetic.contains c

/-- The property Lowercase. -/
def isLowercase (c : Char) : Bool :=
  lowercaseLetter.contains c || Property.otherLowercase.contains c

/-- The property Uppercase. -/
def isUppercase (c : Char) : Bool :=
  uppercaseLetter.contains c || Property.otherUppercase.contains c

/-- The property Cased. -/
def isCased (c : Char) : Bool :=
  isLowercase c || isUppercase c || titlecaseLetter.contains c

/-- The property Grapheme_Extend: characters that continue the one before. -/
def isExtending (c : Char) : Bool :=
  anyOf [nonspacingMark, enclosingMark, Property.otherGraphemeExtend] c

/-- Characters of words: alphabetic ones, marks, decimal digits, connectors and joiners. -/
def isWord (c : Char) : Bool :=
  isAlphabetic c || isMark c || decimalNumber.contains c || connectorPunctuation.contains c ||
    c = '\u200c' || c = '\u200d'

/-- Characters that show as themselves: every assigned one that is neither a control, a format or
a private character nor a separator, and the space. -/
def isVisible (c : Char) : Bool :=
  c = ' ' || (isAssigned c && !isSeparator c && !anyOf [control, format, privateUse] c)

end Workplan.Text.Category
