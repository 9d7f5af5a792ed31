import AcpTask.Library.RowLocks
import AcpTask.Library.Run

namespace AcpTask.Marketplace

open Library

/-! One task of the marketplace with its bids, and the statements of the calls
on it. -/

inductive TaskStatus where
  | opened
  | accepted
  | delivered
  | completed
  | cancelled
  deriving DecidableEq

structure Task where
  authorPrincipalId : String
  workerPrincipalId : Option String
  status : TaskStatus
  deriving DecidableEq

inductive BidStatus where
  | pending
  | accepted
  | rejected
  deriving DecidableEq

structure Proposal where
  agentPrincipalId : String
  proposedTerms : String
  agentReputationNote : Option String

structure Bid extends Proposal where
  status : BidStatus := .pending

abbrev BidId := Nat

inductive MarketCall where
  | acceptTask (workerPrincipalId : String)
  | createBid (proposal : Proposal)
  | acceptBid (bidId : BidId) (authorPrincipalId : String)
  | submitWorkResult (requesterPrincipalId : String)
  | completeTask (authorPrincipalId : String)

/-- An `UPDATE` of the task's row. -/
inductive TaskWrite where
  | accept (workerPrincipalId : String)
  | acceptFor (bidId : BidId) (agentPrincipalId : String)
  | deliver
  | complete

namespace TaskWrite

def assign (write : TaskWrite) (task : Task) : Task :=
  match write with
  | .accept workerPrincipalId => { task with
      status := .accepted, workerPrincipalId := some workerPrincipalId }
  | .acceptFor _ agentPrincipalId => { task with
      status := .accepted, workerPrincipalId := some agentPrincipalId }
  | .deliver => { task with status := .delivered }
  | .complete => { task with status := .completed }

/-- Only `accept_task` looks at the status again. -/
def selects (write : TaskWrite) (task : Task) : Bool :=
  match write with
  | .accept _ => task.status == .opened
  | _ => true

end TaskWrite

inductive MarketPhase where
  | idle
  | fetch (call : MarketCall)
  | withdraw (proposal : Proposal)
  | insert (proposal : Proposal)
  | pick (bidId : BidId)
  | mark (bidId : BidId) (agentPrincipalId : String)
  | reject (bidId : BidId) (agentPrincipalId : String)
  | write (write : TaskWrite)
  | commit (write : Option TaskWrite)

def fetched (call : MarketCall) (row : Option Task) :
    Except String MarketPhase :=
  match row with
  | none => .error "not_found"
  | some task =>
      match call with
      | .acceptTask workerPrincipalId =>
          if task.status != .opened then .error "not_open"
          else if task.authorPrincipalId == workerPrincipalId then
            .error "own_task"
          else .ok (.write (.accept workerPrincipalId))
      | .createBid proposal =>
          if task.status != .opened then .error "not_open"
          else .ok (.withdraw proposal)
      | .acceptBid bidId authorPrincipalId =>
          if task.authorPrincipalId != authorPrincipalId then
            .error "not_author"
          else if task.status != .opened then .error "not_open"
          else .ok (.pick bidId)
      | .submitWorkResult requesterPrincipalId =>
          if task.status != .accepted then .error "not_accepted"
          else if task.workerPrincipalId != some requesterPrincipalId then
            .error "forbidden"
          else .ok (.write .deliver)
      | .completeTask authorPrincipalId =>
          if task.authorPrincipalId != authorPrincipalId then
            .error "not_author"
          else if task.status != .accepted && task.status != .delivered then
            .error "not_ready"
          else if task.workerPrincipalId.isNone then .error "no_worker"
          else .ok (.write .complete)

/-- The task and its bids; a bid that was deleted is `none`.  `drawn` are the
agents of the bids, by their identifiers. -/
structure Market where
  task : RowLocks Unit Task Nat
  bids : RowLocks BidId (Option Bid) Nat
  drawn : List String
  phases : Nat → MarketPhase

namespace Market

def created (authorPrincipalId : String) : Market where
  task := .ofCommitted fun _ => some ⟨authorPrincipalId, none, .opened⟩
  bids := .ofCommitted fun _ => none
  drawn := []
  phases := fun _ => .idle

def move (market : Market) (process : Nat) (phase : MarketPhase) : Market :=
  { market with phases := Function.update market.phases process phase }

def rollback (market : Market) (process : Nat) : Market :=
  { market.move process .idle with
    task := market.task.release process
    bids := market.bids.release process }

def onBids (market : Market) (process : Nat) (phase : MarketPhase)
    (result : Option (RowLocks BidId (Option Bid) Nat)) : Market :=
  match result with
  | some bids => { market.move process phase with bids }
  | none => market

def pendingOf (agentPrincipalId : String) (row : Option Bid) : Bool :=
  row.any fun bid => bid.agentPrincipalId == agentPrincipalId &&
    bid.status == .pending

def withStatus (status : BidStatus) (row : Option Bid) : Option Bid :=
  row.map fun bid => { bid with status }

/-- `seen` are the bids that were there when the statement began: it may have
waited since. -/
def advance (market : Market) (process : Nat) (seen : List BidId) : Market :=
  match market.phases process with
  | .idle => market
  | .fetch call =>
      match fetched call (market.task.visible process ()) with
      | .ok phase => market.move process phase
      | .error _ => market.move process .idle
  | .withdraw proposal => market.onBids process (.insert proposal)
      (market.bids.updateWhere? process
        (pendingOf proposal.agentPrincipalId) (fun _ => none) seen)
  | .insert proposal =>
      match market.bids.put? process market.drawn.length
          (some { toProposal := proposal }) with
      | some bids => { market.move process (.commit none) with
          bids, drawn := market.drawn ++ [proposal.agentPrincipalId] }
      | none => market
  | .pick bidId =>
      match market.bids.visible process bidId with
      | some (some bid) =>
          market.move process (.mark bidId bid.agentPrincipalId)
      | _ => market.rollback process
  | .mark bidId agentPrincipalId =>
      market.onBids process (.reject bidId agentPrincipalId)
        (market.bids.updateWhere? process Option.isSome
          (withStatus .accepted) [bidId])
  | .reject bidId agentPrincipalId =>
      market.onBids process (.write (.acceptFor bidId agentPrincipalId))
        (market.bids.updateWhere? process Option.isSome
          (withStatus .rejected) (seen.filter fun other => other != bidId))
  | .write write =>
      if (market.task.visible process ()).any write.selects then
        match market.task.update? process () write.assign with
        | some task => { market.move process (.commit (some write)) with
            task }
        | none => market
      else market.rollback process
  | .commit _ => { market.move process .idle with
      task := market.task.commit process
      bids := market.bids.commit process }

end Market

inductive MarketAction where
  | call (process : Nat) (call : MarketCall)
  | advance (process : Nat) (seen : List BidId)
  | crash (process : Nat)

def marketStep (market : Market) : MarketAction → Market
  | .call process call =>
      match market.phases process with
      | .idle => market.move process (.fetch call)
      | _ => market
  | .advance process seen => market.advance process seen
  | .crash process => market.rollback process

end AcpTask.Marketplace
