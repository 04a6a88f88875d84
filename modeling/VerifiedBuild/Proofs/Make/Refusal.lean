import VerifiedBuild.Proofs.Make.CodeResult
import VerifiedBuild.Proofs.Make.Gate
import VerifiedBuild.Proofs.Requests
import VerifiedBuild.Proofs.Store.Buffering
import VerifiedBuild.Rehearsal

/-!
# Refused files

What follows when generated code is put into a file and an error is reported: its message is all
that is still shown, and nothing was shown or built before. Where the report misses an error, the
code is taken to be in the file.
-/

namespace VerifiedBuild

variable {K : Toolkit} {α β : Type} {collaborators : Collaborators K}

/-! ## Points of a run -/

/-- From one machine to another only requests of some kind are made. -/
def Machine.OnlyAsks (requests : Request K → Prop) (before there : Machine K) : Prop :=
  ∃ own, there.history = before.history ++ own ∧ ∀ event ∈ own, requests event.request

theorem Machine.OnlyAsks.trans {requests : Request K → Prop} {before middle there : Machine K}
    (first : OnlyAsks requests before middle) (second : OnlyAsks requests middle there) :
    OnlyAsks requests before there := by
  obtain ⟨own, begun, allowed⟩ := first
  obtain ⟨more, grown, rest⟩ := second
  refine ⟨own ++ more, by rw [grown, begun, List.append_assoc], ?_⟩
  exact List.forall_mem_append.mpr ⟨allowed, rest⟩

namespace Job

variable {job : Job K α} {next : α → Job K β} {before there : Machine K} {request : Request K}
  {requests : Request K → Prop} {failures : Failure → Prop}

/-- A point beyond a confined job is one of what follows it. -/
theorem Reaches.after {later : request.Answer → Job K β}
    (reaches : (job >>= next).Reaches collaborators before (.ask request later) there)
    (confined : job.Confined requests failures) (other : ¬requests request) :
    ∃ value middle, Machine.OnlyAsks requests before middle ∧
      (next value).Reaches collaborators middle (.ask request later) there := by
  rcases reaches.of_bind with ⟨rest, inFirst, -⟩ | ⟨value, middle, ended, inSecond⟩
  · exact absurd inFirst (confined.not_reaches other)
  · obtain ⟨own, grown, allowed⟩ := confined.history collaborators before
    rw [ended] at grown
    exact ⟨value, middle, ⟨own, grown, allowed⟩, inSecond⟩

end Job

/-! ## Where files are written -/

variable {config : Config} {program : K.Program} {others : List Source} {wantsBuild : Bool}
  {basePath path text target code : String} {generated : Generated} {kept : Option String}
  {before there : Machine K} {later : Option WriteError → Job K CodeResult}

/-- When an error is reported for a file, its message is the last that the job does, and before it
there were only requests for the code of the program. -/
def GivesUp (collaborators : Collaborators K) (job : Job K CodeResult) (before : Machine K) :
    Prop :=
  ∃ made, (job.run collaborators before).2.history = before.history ++ made ∧
    ∀ earlier path text error later,
      made = earlier ++ ⟨.saveFile path text, .ok (some error)⟩ :: later →
      (∀ event ∈ earlier, event.request.isForCode) ∧
      (∃ there : Machine K,
        job.Does collaborators before (Job.request (.saveFile path text)) there ∧
        there.history = before.history ++ earlier ∧
        (there.host.store.write path text).1 = some error) ∧
      later = [⟨.errorLine ("proofc: " ++ error.message), .ok ()⟩] ∧
      (job.run collaborators before).1 = .ok ⟨.unwritten, ""⟩

namespace Rehearsal

def lostRun : Except Failure CodeResult × Machine toolkit :=
  let store := Store.standard.put "a.cpp" (.device .full)
  (generateCode { spillLevel := 1 } "a.prf" "a.prf" [] true).run (Rehearsal.collaborators {})
    { host := { store } }

end Rehearsal

-- Code that no file holds is announced and built.
example : Rehearsal.lostRun.1 = .ok ⟨.made, "a.out"⟩ ∧
      Rehearsal.lostRun.2.host.store.content? "a.cpp" = none ∧
      "Compiled program written to a.cpp\n" ∈
        Rehearsal.lostRun.2.console.transcript.map (·.text) ∧
      CallKind.build ∈ Rehearsal.lostRun.2.calls.map Call.kind := by
  decide +kernel

end VerifiedBuild
