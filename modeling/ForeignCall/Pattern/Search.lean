import ForeignCall.Pattern

/-!
# Searching for patterns

A text is read once, from its first character to its last. At each place there is a list of what is
still to be matched by the attempts that are under way, in the order of their preference; the
attempt that would begin at this place comes last. An attempt that is complete ends all attempts
behind it, so that of several matches the leftmost counts, and of those that begin at the same place
the preferred one.

## Main definitions

* `Pattern.Attempt`: what is still to be matched;
* `Pattern.frontier`: the attempts at a place, with all choices made;
* `Pattern.matchesEnd`: whether the match that counts reaches the end of a text.
-/

namespace ForeignCall.Pattern

/-- What an attempt still has to match, in order. A complete attempt has nothing left. -/
abbrev Attempt := List Pattern

/-- Makes the choices of attempts at a place between two characters, until each attempt is complete
or waits for a character. An attempt that occurred before, with a greater preference, is dropped;
the first argument bounds the steps. -/
def expand (before after : Option Char) : Nat → List Attempt → List Attempt → List Attempt
  | 0, _, _ => []
  | _ + 1, _, [] => []
  | n + 1, seen, t :: rest =>
    if t ∈ seen then expand before after n seen rest
    else
      match t with
      | [] => [[]]
      | .one s :: k => (.one s :: k) :: expand before after n (t :: seen) rest
      | .empty :: k => expand before after n (t :: seen) (k :: rest)
      | .place p :: k =>
        expand before after n (t :: seen) (if p.holds before after then k :: rest else rest)
      | .seq a b :: k => expand before after n (t :: seen) ((a :: b :: k) :: rest)
      | .alt a b :: k => expand before after n (t :: seen) ((a :: k) :: (b :: k) :: rest)
      | .optional true a :: k => expand before after n (t :: seen) ((a :: k) :: k :: rest)
      | .optional false a :: k => expand before after n (t :: seen) (k :: (a :: k) :: rest)
      | .plus greedy a :: k =>
        expand before after n (t :: seen) ((a :: .more greedy a :: k) :: rest)
      | .more true a :: k => expand before after n (t :: seen) ((.plus true a :: k) :: k :: rest)
      | .more false a :: k => expand before after n (t :: seen) (k :: (.plus false a :: k) :: rest)

/-- The attempts at a place between two characters. Each node of the pattern, and each `more` that
belongs to a `plus`, heads one attempt, and each attempt is replaced by at most two. -/
def frontier (p : Pattern) (before after : Option Char) (ts : List Attempt) : List Attempt :=
  expand before after (ts.length + 4 * p.size + 4) [] ts

/-- The attempts that go on behind a character. -/
def step (c : Char) (ts : List Attempt) : List Attempt :=
  ts.filterMap fun
    | .one s :: k => if s.contains c then some k else none
    | _ => none

/-- Whether an empty match can begin inside a character that takes several bytes. What is on either
side there is no part of a word, and neither an end of the text nor an end of a line. -/
def matchesInside (p : Pattern) : Bool :=
  [] ∈ p.frontier (some '\uFFFD') (some '\uFFFD') [[p]]

/-- Reads a text behind a character, with the attempts that are under way. The flag tells whether
attempts still begin. At the end the match that counts is the one that is complete there. -/
def matchesFrom (p : Pattern) (before : Option Char) (starting : Bool) (ts : List Attempt) :
    List Char → Bool
  | [] => [] ∈ p.frontier before none (if starting then ts ++ [[p]] else ts)
  | c :: cs =>
    let here := p.frontier before (some c) (if starting then ts ++ [[p]] else ts)
    let starting := starting && ¬[] ∈ here && !(1 < c.utf8Size && p.matchesInside)
    matchesFrom p (some c) starting (step c here) cs

/-- Whether the match of a pattern in a text, the leftmost and among those the preferred one, ends
where the text ends. -/
def matchesEnd (p : Pattern) (cs : List Char) : Bool :=
  p.matchesFrom none true [] cs

end ForeignCall.Pattern
