/-
# `Workplan.Pattern.Named` — classes named by properties of characters

A name is a binary property, a general category or a script, looked up in this order; written with
a value, it is the category, the script or the property that the value names.  Case, blanks,
hyphens, underscores and a leading `is` do not count.
-/
import Workplan.Pattern.CharClass
import Workplan.Text.Blank
import Workplan.Text.ScriptTable

namespace Workplan.Pattern

open Text

/-- Letters and digits of a name in lower case. -/
def plainChars (cs : List Char) : List Char :=
  (cs.filter fun c => c.toNat < 0x80 && c != ' ' && c != '_' && c != '-').map Char.toLower

/-- A name in the form in which names are compared. -/
def plainName (name : String) : String :=
  match name.toList with
  | i :: s :: rest =>
    if (i == 'i' || i == 'I') && (s == 's' || s == 'S') then
      -- the short name of a property that is not a class, kept apart from the category Other
      if plainChars rest = ['c'] then "isc" else String.ofList (plainChars rest)
    else String.ofList (plainChars name.toList)
  | cs => String.ofList (plainChars cs)

namespace CharClass

/-- The class of several sets. -/
def ofSets (sets : List Ranges) : CharClass := unions (sets.map ofRanges)

/-- General categories under their names. -/
def categories : List (List String × CharClass) :=
  let c := Category.control
  [ (["any"], range 0 0x10FFFF),
    (["ascii"], range 0 0x7F),
    (["assigned"], ofProperty Category.isAssigned 730),
    (["c", "other"], ofProperty Category.isOther 740),
    (["cc", "control", "cntrl"], ofRanges c),
    (["cf", "format"], ofRanges Category.format),
    (["cn", "unassigned"], ofProperty (fun x => !Category.isAssigned x) 730),
    (["co", "privateuse"], ofRanges Category.privateUse),
    (["l", "letter"], ofProperty Category.isLetter 680),
    (["lc", "casedletter"],
      ofSets [Category.uppercaseLetter, Category.lowercaseLetter, Category.titlecaseLetter]),
    (["ll", "lowercaseletter"], ofRanges Category.lowercaseLetter),
    (["lm", "modifierletter"], ofRanges Category.modifierLetter),
    (["lo", "otherletter"], ofRanges Category.otherLetter),
    (["lt", "titlecaseletter"], ofRanges Category.titlecaseLetter),
    (["lu", "uppercaseletter"], ofRanges Category.uppercaseLetter),
    (["m", "mark", "combiningmark"], ofProperty Category.isMark 320),
    (["mc", "spacingmark"], ofRanges Category.spacingMark),
    (["me", "enclosingmark"], ofRanges Category.enclosingMark),
    (["mn", "nonspacingmark"], ofRanges Category.nonspacingMark),
    (["n", "number"], ofProperty Category.isNumber 145),
    (["nd", "decimalnumber", "digit"], ofRanges Category.decimalNumber),
    (["nl", "letternumber"], ofRanges Category.letterNumber),
    (["no", "othernumber"], ofRanges Category.otherNumber),
    (["p", "punctuation", "punct"], ofProperty Category.isPunctuation 195),
    (["pc", "connectorpunctuation"], ofRanges Category.connectorPunctuation),
    (["pd", "dashpunctuation"], ofRanges Category.dashPunctuation),
    (["pe", "closepunctuation"], ofRanges Category.closePunctuation),
    (["pf", "finalpunctuation"], ofRanges Category.finalPunctuation),
    (["pi", "initialpunctuation"], ofRanges Category.initialPunctuation),
    (["po", "otherpunctuation"], ofRanges Category.otherPunctuation),
    (["ps", "openpunctuation"], ofRanges Category.openPunctuation),
    (["s", "symbol"], ofProperty Category.isSymbol 240),
    (["sc", "currencysymbol"], ofRanges Category.currencySymbol),
    (["sk", "modifiersymbol"], ofRanges Category.modifierSymbol),
    (["sm", "mathsymbol"], ofRanges Category.mathSymbol),
    (["so", "othersymbol"], ofRanges Category.otherSymbol),
    (["z", "separator"], ofProperty Category.isSeparator 8),
    (["zl", "lineseparator"], ofRanges Category.lineSeparator),
    (["zp", "paragraphseparator"], ofRanges Category.paragraphSeparator),
    (["zs", "spaceseparator"], ofRanges Category.spaceSeparator) ]

/-- Characters that begin identifiers. -/
def identifierStart : CharClass :=
  let extra := unions [range 0x1885 0x1886, range 0x2118 0x2118, range 0x212E 0x212E,
    range 0x309B 0x309C]
  (ofProperty (fun c => (Category.isLetter c || Category.letterNumber.contains c) &&
    c != '\u2e2f') 680).union extra

/-- Characters that go on with identifiers. -/
def identifierContinue : CharClass :=
  let extra := unions [range 0xB7 0xB7, range 0x387 0x387, range 0x1369 0x1371,
    range 0x19DA 0x19DA, range 0x200C 0x200D, range 0x30FB 0x30FB, range 0xFF65 0xFF65]
  unions [identifierStart, ofSets [Category.nonspacingMark, Category.spacingMark,
    Category.decimalNumber, Category.connectorPunctuation], extra]

/-- Derived properties under their names. -/
def derived : List (List String × CharClass) :=
  [ (["alphabetic", "alpha"], ofProperty Category.isAlphabetic 755),
    (["lowercase", "lower"], ofProperty Category.isLowercase 670),
    (["uppercase", "upper"], ofProperty Category.isUppercase 650),
    (["cased"], ofProperty Category.isCased 160),
    (["graphemeextend", "grext"], ofProperty Category.isExtending 380),
    (["graphemebase", "grbase"],
      ofProperty (fun c => Category.isAssigned c && !Category.isExtending c &&
        !Category.anyOf [Category.control, Category.format, Category.privateUse,
          Category.lineSeparator, Category.paragraphSeparator] c) 890),
    (["idstart", "ids"], identifierStart),
    (["idcontinue", "idc"], identifierContinue) ]

/-- The class under a name in a list of classes. -/
def under (name : String) (classes : List (List String × CharClass)) : Option CharClass :=
  (classes.find? fun e => e.1.contains name).map Prod.snd

/-- The set under a long or short name of a table. -/
def inTable (name : String) (table : List (String × String × Ranges)) : Option CharClass :=
  (table.find? fun e => plainName e.1 == name || plainName e.2.1 == name).map fun e =>
    ofRanges e.2.2

def binary? (name : String) : Option CharClass :=
  (under name derived).or (inTable name Property.table)

def category? (name : String) : Option CharClass := under name categories

def script? (name : String) : Option CharClass :=
  match name with
  | "qaac" => inTable "coptic" Script.all
  | "qaai" => inTable "inherited" Script.all
  | _ => inTable name Script.all

/-- The class of a name without a value.  Three names are short for categories though properties
have them too. -/
def named? (name : String) : Option CharClass :=
  let plain := plainName name
  let property := if ["cf", "sc", "lc"].contains plain then Option.none else binary? plain
  (property.or (category? plain)).or (script? plain)

/-- The class of a property with a value. -/
def valued? (property value : String) : Option CharClass :=
  let property := plainName property
  if ["gc", "generalcategory"].contains property then category? (plainName value)
  else if ["sc", "script"].contains property then script? (plainName value)
  else Option.none

end CharClass

end Workplan.Pattern
