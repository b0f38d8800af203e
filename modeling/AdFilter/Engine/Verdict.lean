import AdFilter.Rule.Reason
import AdFilter.Text.Quoted

/-!
# Verdicts on navigations

A page that wants to open a new window never gets one: the navigation is dropped, or goes to the
page that asked for it.
-/

namespace AdFilter

open Text

/-- Why a navigation is dropped. -/
inductive SuppressReason where
  /-- a rule blocks the address -/
  | blocked (r : Reason)
  /-- a word in the address makes the window an intrusive one -/
  | popupIndicator (word : List Char)
deriving Repr, DecidableEq

/-- What becomes of a navigation. -/
inductive Verdict where
  | suppress (w : SuppressReason)
  | redirect
deriving Repr, DecidableEq

/-- The reason in words. -/
def SuppressReason.text : SuppressReason → List Char
  | blocked r => r.text
  | popupIndicator i => "popup indicator '".toList ++ i ++ ['\'']

namespace Verdict

def isSuppressed : Verdict → Bool
  | suppress _ => true
  | redirect => false

/-- The reason in words, if the navigation is dropped. -/
def reasonText : Verdict → Option (List Char)
  | suppress w => some w.text
  | redirect => none

end Verdict

/-! ## Terms

Reasons as terms: a name, and what it is about between parentheses. -/

/-- A name with a quoted text between parentheses. -/
def termOf (name : String) (cs : List Char) : List Char := name.toList ++ '(' :: quoted cs ++ [')']

def Reason.term : Reason → List Char
  | criticalDomain d => termOf "CriticalDomain" d
  | criticalMarker m => termOf "CriticalMarker" m
  | domain => "Domain".toList
  | subdomain p => termOf "Subdomain" p
  | pattern s => termOf "Pattern" s

def SuppressReason.term : SuppressReason → List Char
  | blocked r => "Blocked(".toList ++ r.term ++ [')']
  | popupIndicator i => termOf "PopupIndicator" i

end AdFilter
