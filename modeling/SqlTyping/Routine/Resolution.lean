import SqlTyping.Journal
import SqlTyping.Routine.Selection
import SqlTyping.Routine.Signature

/-!
# Overload resolution

Which overload a call binds to. Candidates are narrowed by name and number of parameters, then
operand by operand, then by what the call needs of the result. The remaining ones are ranked by the
representations of their parameters and then by how far the operands have to widen. A single best
candidate is chosen; several best candidates make the call ambiguous, whatever the order in which
they were declared.

A call can instead name the host types of the parameters, which selects an overload without
ranking.
-/

namespace SqlTyping

/-! ### Rank -/

/-- How well a candidate fits a call; lower is better. -/
structure Rank where
  /-- The sum of the costs of the representations. -/
  representation : Int := 0
  /-- The sum of the distances that operands widen. -/
  distance : Int := 0
  deriving DecidableEq

/-- Whether a rank is strictly better than another. Representations are compared first. -/
def Rank.better (r s : Rank) : Bool :=
  if r.representation = s.representation then r.distance < s.distance
  else r.representation < s.representation

/-- The distance that an operand widens to reach a parameter. -/
def Param.distance (p : Param) : Option SqlType → Nat
  | none => 0
  | some t => (t.family.distance? p.type.family).getD 0

/-- The diagnostic for a parameter with an unassigned representation. -/
def invalidRepresentation (s : Signature) (position : Nat) (p : Param) : Diagnostic :=
  .assertion ("parameter " ++ toString (position + 1) ++ " of " ++ s.render ++
    " has invalid representation " ++ toString p.kind.number)

/-- The rank that the parameters of `s` from a position on add for their operands. -/
def rankFrom (s : Signature) (position : Nat) :
    List (Param × Option SqlType) → Except Crash Rank
  | [] => .ok {}
  | (p, t) :: rest =>
    match p.kind.rank? with
    | none => .error (.failed (invalidRepresentation s position p))
    | some cost => do
      let r ← rankFrom s (position + 1) rest
      .ok ⟨cost + r.representation, p.distance t + r.distance⟩

/-- The rank of a candidate that accepts all operands. -/
def Signature.rank (s : Signature) (operands : List (Option SqlType)) : Except Crash Rank :=
  rankFrom s 0 (s.params.zip operands)

/-- The best of some ranks, `r` among them. -/
def bestRank (r : Rank) : List Rank → Rank
  | [] => r
  | s :: rest => bestRank (if s.better r then s else r) rest

/-! ### Outcome -/

/-- The result of resolving a call. -/
inductive CallOutcome where
  | resolved (signature : Signature) (rank : Rank)
  /-- Several candidates are equally good. They are listed in the order of their spelling, with the
  first parameter at which they differ. -/
  | ambiguous (candidates : List Signature) (rank : Rank) (position : Option Nat)
  /-- No candidate applies. The position is that of the operand that no remaining candidate
  accepts. -/
  | unresolvable (position : Option Nat)
  /-- Candidates apply to the operands, but none returns what the call needs. -/
  | ineligible
  deriving DecidableEq

namespace CallOutcome

/-- The name of the kind of an outcome. -/
def kindName : CallOutcome → String
  | resolved .. => "resolved"
  | ambiguous .. => "ambiguous"
  | unresolvable _ | ineligible => "unresolvable"

/-- The chosen overload. -/
def signature? : CallOutcome → Option Signature
  | resolved s _ => some s
  | _ => none

/-- The rank of the chosen or tied overloads. -/
def rank : CallOutcome → Rank
  | resolved _ r => r
  | ambiguous _ r _ => r
  | _ => {}

/-- The tied overloads. -/
def candidates : CallOutcome → List Signature
  | ambiguous cs _ _ => cs
  | _ => []

/-- The operand or parameter that explains a failure. -/
def position? : CallOutcome → Option Nat
  | ambiguous _ _ p => p
  | unresolvable p => p
  | _ => none

/-- Whether only the result kept candidates from applying. -/
def returnIneligible : CallOutcome → Bool
  | ineligible => true
  | _ => false

/-- The diagnostic that goes with an outcome, given the spelling of the call. -/
def diagnostic? (call : String) (o : CallOutcome) : Option Diagnostic :=
  let placed (d : Diagnostic) : Diagnostic :=
    match o.position? with
    | none => d
    | some p => .placed p d
  match o with
  | resolved .. => none
  | ambiguous cs _ position =>
    let d := Diagnostic.ofCode .ambiguousRoutine ("routine call " ++ call ++ " is ambiguous")
    let d := Diagnostic.detailed ("candidates: " ++ "; ".intercalate (cs.map Signature.render)) d
    let d := match position with
      | none => d
      | some p => .detailed ("candidates differ at parameter " ++ toString (p + 1)) d
    let d := Diagnostic.hinted "use an explicit host signature to select one overload" d
    some (placed (.marked .ambiguous d))
  | ineligible =>
    some <| placed <| .marked .ineligibleReturn <| .ofCode .ineligibleRoutine
      ("no overload of " ++ call ++ " has a return type eligible in this context")
  | unresolvable _ =>
    some <| placed <| .marked .unresolvable <| .ofCode .undefinedRoutine
      ("no routine matches " ++ call)

end CallOutcome

/-! ### Candidates -/

/-- The first parameter, from a position on, at which some candidate differs from the first. -/
def firstDifferenceFrom (position : Nat) (others : List Signature) :
    List Param → Option Nat
  | [] => none
  | p :: rest =>
    if others.all fun c => ((c.params[position]?).map (Param.agrees p)).getD false then
      firstDifferenceFrom (position + 1) others rest
    else some position

/-- The first parameter at which the candidates do not all agree. -/
def firstDifference : List Signature → Option Nat
  | [] => none
  | first :: others => firstDifferenceFrom 0 others first.params

/-- Signatures in the order of their spelling. -/
def sortBySpelling (cs : List Signature) : List Signature :=
  cs.mergeSort fun a b => decide (a.render ≤ b.render)

/-- The diagnostic for more candidates than the limit allows. -/
def tooManyCandidates (count : Nat) (limit : Int) : Diagnostic :=
  .assertion ("too many overloads (" ++ toString count ++ " > " ++ toString limit ++ ")")

/-- Whether a candidate has the name and the number of parameters of a call. -/
def Signature.isNamed (name : String) (arity : Nat) (s : Signature) : Bool :=
  Text.equalFold s.name name && s.arity = arity

/-- Whether the parameter at a position accepts operands of a type. -/
def Signature.acceptsAt (position : Nat) (t : SqlType) (s : Signature) : Bool :=
  ((s.params[position]?).map (·.accepts t.family)).getD false

/-- The candidates that accept the operands from a position on, or the position of the operand that
none of them accepts. -/
def acceptingFrom (position : Nat) (candidates : List Signature) :
    List (Option SqlType) → Except Nat (List Signature)
  | [] => .ok candidates
  | none :: rest => acceptingFrom (position + 1) candidates rest
  | some t :: rest =>
    let kept := select (Signature.acceptsAt position t) candidates
    if kept.isEmpty then .error position else acceptingFrom (position + 1) kept rest

/-- The outcome for candidates that are equally good. -/
def tiedOutcome (r : Rank) : List Signature → CallOutcome
  | [s] => .resolved s r
  | tied => .ambiguous (sortBySpelling tied) r (firstDifference (sortBySpelling tied))

/-- The outcome among the candidates that apply. -/
def rankedOutcome (operands : List (Option SqlType)) (candidates : List Signature) :
    Except Crash CallOutcome := do
  let ranked ← candidates.mapM fun s => do return (s, ← s.rank operands)
  match ranked with
  | [] => .ok .ineligible
  | first :: rest =>
    let best := bestRank first.2 (rest.map (·.2))
    .ok (tiedOutcome best ((ranked.filter fun c => c.2 = best).map (·.1)))

/-- Resolves a call by rank among candidates with its name and number of parameters. -/
def resolveNamed (operands : List (Option SqlType)) (context : ReturnContext)
    (named : List Signature) : Except Abort CallOutcome :=
  if named.isEmpty then .ok (.unresolvable none)
  else match acceptingFrom 0 named operands with
    | .error position => .ok (.unresolvable (some position))
    | .ok accepting =>
      (rankedOutcome operands (select (fun s => context.admits s.result) accepting)).mapError .crash

/-- Resolves a call by rank. Candidates with another name or number of parameters are ignored, and
there may be at most `limit` of them. -/
def resolve (limit : Int) (name : String) (candidates : List Signature)
    (operands : List (Option SqlType)) (context : ReturnContext) : Except Abort CallOutcome :=
  if (candidates.length : Int) > limit then
    .error (.error (tooManyCandidates candidates.length limit))
  else
    resolveNamed operands context (select (Signature.isNamed name operands.length) candidates)

/-- Whether a candidate has the given host signature and accepts the operands, if there are any.
Parameters are compared from left to right, and an unassigned representation that is reached has no
host type to compare. -/
def matchesHost : List Param → HostSignature → List (Option SqlType) → Except Crash Bool
  | [], _, _ => .ok true
  | p :: ps, ts, operands =>
    match p.hostType? with
    | none => .error .outOfBounds
    | some t =>
      if ts.head? ≠ some t then .ok false
      else if !p.acceptsOperand (operands.head?.getD none) then .ok false
      else matchesHost ps ts.tail operands.tail

/-- Whether the number of operands, if there are any, is not that of the host types. -/
def miscounts (host : HostSignature) (operands : Option (List (Option SqlType))) : Bool :=
  (operands.map fun ops => ops.length != host.length).getD false

/-- Resolves a call by host signature among candidates with its name and number of parameters. If
there are operands they must be accepted as well. -/
def resolveHosted (host : HostSignature) (operands : Option (List (Option SqlType)))
    (context : ReturnContext) (named : List Signature) : Except Abort CallOutcome :=
  if miscounts host operands then .ok (.unresolvable none)
  else do
    let verdicts ← (named.mapM fun s => matchesHost s.params host (operands.getD [])).mapError
      Abort.crash
    let matching := ((named.zip verdicts).filter (·.2)).map (·.1)
    if matching.isEmpty then .ok (.unresolvable none)
    else match matching.filter fun s => context.admits s.result with
      | [] => .ok .ineligible
      | [s] =>
        match operands with
        | none => .ok (.resolved s {})
        | some ops => ((s.rank ops).map (CallOutcome.resolved s)).mapError .crash
      | several => .ok (tiedOutcome {} several)

/-- Resolves a call by host signature, with the same limit. -/
def resolveExplicit (limit : Int) (name : String) (candidates : List Signature)
    (host : HostSignature) (operands : Option (List (Option SqlType)))
    (context : ReturnContext) : Except Abort CallOutcome :=
  if (candidates.length : Int) > limit then
    .error (.error (tooManyCandidates candidates.length limit))
  else
    resolveHosted host operands context (candidates.filter (Signature.isNamed name host.length))

/-- The spelling of a call that names a host signature. -/
def renderExplicitCall (name : String) (host : HostSignature)
    (operands : Option (List (Option SqlType))) : String :=
  match operands with
  | none => name ++ host.render
  | some ops => renderCall name ops

/-! ### Notes -/

/-- The notes of the resolution of a call by rank. -/
def CallOutcome.notes (call : String) (operands : Nat) (o : CallOutcome) : List Note :=
  let note (text : String) : List Note := [{ level := 2, text := call ++ text }]
  match o with
  | .resolved s _ => note (" resolved to " ++ s.render)
  | .ambiguous cs _ _ =>
    note (" is ambiguous between " ++ toString cs.length ++ " overloads")
  | .ineligible => note ": no overload has an eligible return type"
  | .unresolvable (some p) => note (": no overload accepts operand " ++ toString (p + 1))
  | .unresolvable none =>
    note (": no overload with " ++ toString operands ++ " parameters")

/-- The notes of the resolution of a call by host signature. -/
def CallOutcome.explicitNotes (call : String) (host : HostSignature)
    (operands : Option (List (Option SqlType))) (o : CallOutcome) : List Note :=
  match o with
  | .unresolvable _ =>
    if miscounts host operands then []
    else [{ level := 2, text := call ++ ": no overload has host signature " ++ host.render }]
  | _ => []

end SqlTyping
