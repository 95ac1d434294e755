import GraphBrowser.Explorer

set_option autoImplicit false

namespace GraphBrowser.Explorer

variable {α σ ε : Type} [Coordinate α] [DecidableEq ε] [Surface σ α ε]

-- Redeems the ticket on top of the stack with its answer and expands its node, whose tickets go on top;
-- stops when the stack is empty or `limit` tickets were redeemed.
def crawlStack (answer : String → FetchResult) (direction : Direction) :
    Nat → List Ticket → Explorer α σ ε → List (String × Outcome) × Explorer α σ ε
  | 0, _, x => ([], x)
  | _, [], x => ([], x)
  | limit + 1, ticket :: stack, x =>
      let (outcome, x) := x.redeem ticket (answer ticket.node)
      let (tickets, x) := x.expand ticket.node direction
      let (rest, x) := crawlStack answer direction limit (tickets.reverse ++ stack) x
      ((ticket.node, outcome) :: rest, x)

def crawl (x : Explorer α σ ε) (answer : String → FetchResult) (id : String)
    (direction : Direction) (limit : Nat) : List (String × Outcome) × Explorer α σ ε :=
  let (tickets, x) := x.expand id direction
  crawlStack answer direction limit tickets.reverse x

end GraphBrowser.Explorer
