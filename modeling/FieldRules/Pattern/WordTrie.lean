/-!
# Tries of words

A choice between words is read with a trie, in which words that begin alike
share their way.  The order of the words is kept: where a word ends before
another one goes on, the ways behind that place are parted into those that come
before the word and those that come after it.

* `WordTrie.ofWords` puts words into a trie.
* `WordTrie.states` and `WordTrie.links` count what its automaton is made of.
-/

namespace FieldRules.Pattern

/-- A trie.  `closed` are the ways that come before each of the words that end
here, `current` those that come after all of them. -/
inductive WordTrie where
  | node (closed : List (List (Nat × WordTrie))) (current : List (Nat × WordTrie))

namespace WordTrie

/-- The trie without words. -/
def none : WordTrie := node [] []

/-- Whether no way goes on from here. -/
def isLeaf : WordTrie → Bool
  | node closed current => current.isEmpty && closed.all (·.isEmpty)

/-- Ways in ascending order with the way of one byte put in. -/
def putWay (byte : Nat) (trie : WordTrie) : List (Nat × WordTrie) → List (Nat × WordTrie)
  | [] => [(byte, trie)]
  | (b, t) :: rest =>
    if byte = b then (byte, trie) :: rest
    else if byte < b then (byte, trie) :: (b, t) :: rest
    else (b, t) :: putWay byte trie rest

/-- The trie with a word that is less preferred than all others. -/
def insert : List Nat → WordTrie → WordTrie
  | [], node closed current =>
    if (node closed current).isLeaf && !closed.isEmpty then node closed current
    else node (closed ++ [current]) []
  | byte :: rest, node closed current =>
    node closed (putWay byte (insert rest ((current.lookup byte).getD none)) current)

/-- The trie of several words, the most preferred one first. -/
def ofWords (words : List (List Nat)) : WordTrie :=
  words.foldl (fun trie word => trie.insert word) none

/-! ## Automata

A node that is no leaf becomes a choice between its lists of ways, each a state
of its own unless it is empty, and the end of the word between two lists.
-/

/-- The choices of a node: its lists of ways that are not empty, and the ends of
words between the lists. -/
def choices (closed : List (List (Nat × WordTrie))) (current : List (Nat × WordTrie)) : Nat :=
  closed.length + ((closed ++ [current]).filter fun ways => !ways.isEmpty).length

mutual

/-- The states of the automaton behind a node, the end of all words aside. -/
def states : WordTrie → Nat
  | node closed current =>
    if (node closed current).isLeaf then 0
    else statesOfLists closed + statesOfWays current + (if current.isEmpty then 0 else 1) + 1

def statesOfLists : List (List (Nat × WordTrie)) → Nat
  | [] => 0
  | ways :: rest =>
    statesOfWays ways + (if ways.isEmpty then 0 else 1) + statesOfLists rest

def statesOfWays : List (Nat × WordTrie) → Nat
  | [] => 0
  | (_, trie) :: rest => trie.states + statesOfWays rest

end

/-- The bytes of a list of ways beside its state: a single way needs no list. -/
def waysSize (ways : List (Nat × WordTrie)) : Nat :=
  if ways.length ≤ 1 then 0 else 8 * ways.length

mutual

/-- The bytes of the automaton behind a node beside its states. -/
def links : WordTrie → Nat
  | node closed current =>
    if (node closed current).isLeaf then 0
    else linksOfLists closed + linksOfWays current + waysSize current + 4 * choices closed current

def linksOfLists : List (List (Nat × WordTrie)) → Nat
  | [] => 0
  | ways :: rest => linksOfWays ways + waysSize ways + linksOfLists rest

def linksOfWays : List (Nat × WordTrie) → Nat
  | [] => 0
  | (_, trie) :: rest => trie.links + linksOfWays rest

end

end WordTrie

end FieldRules.Pattern
