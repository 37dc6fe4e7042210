import Spiderworks.Html.Builder.Rules
import Spiderworks.Html.Scanner

namespace Spiderworks.Html

open Builder

def inForeignElement (b : Builder) : Bool := b.stack.head?.any (·.space != .html)

-- Each round takes at least one character off the text.
def readRest : Nat → List Char → Build Unit
  | 0, _ | _, [] => step .eof
  | fuel + 1, s => do
    let b ← get
    let (tokens, rest) := Scanner.next b.content (inForeignElement b) s
    for token in tokens do step token
    readRest fuel rest

-- Here the attributes of an element are in the order of the text.
def read (text : String) : Page :=
  let s := pageText text
  let (_, b) := (readRest s.length s).run Builder.start
  b.arena.toPage

end Spiderworks.Html
