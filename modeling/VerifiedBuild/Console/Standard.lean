import VerifiedBuild.Console
import VerifiedBuild.Text.Octets
/-!
# Standard streams

What a transcript puts on the two standard streams of a process. Output is kept back until a block
is full; error text is written at once, after the output that was kept back. Child processes write
to the streams behind the back of the program.
-/

namespace VerifiedBuild

structure KeptOutput where
  written : Octets := []
  kept : Octets := []
deriving DecidableEq, Repr, Inhabited

namespace KeptOutput

def blockSize : Nat := 4096

def flush (output : KeptOutput) : KeptOutput :=
  { written := output.written ++ output.kept }

/-- Put bytes into the block. If they do not fit, only what does not fill a block is kept. -/
def put (output : KeptOutput) (bytes : Octets) : KeptOutput :=
  let all := output.kept ++ bytes
  if all.length ≤ blockSize then { output with kept := all }
  else
    let whole := all.length - all.length % blockSize
    { written := output.written ++ all.take whole, kept := all.drop whole }

def step (output : KeptOutput) (emission : Emission) : KeptOutput :=
  match emission.stream with
  | .out => output.put (Octets.ofText emission.text)
  | .err => output.flush
  | .childOut => { output with written := output.written ++ Octets.ofText emission.text }
  | _ => output

end KeptOutput

namespace Stream

/-- The text of the standard output of a process that ends after a transcript. -/
def standardOutput (transcript : List Emission) : String :=
  Octets.toText (transcript.foldl KeptOutput.step {}).flush.written

def standardError (transcript : List Emission) : String :=
  String.join ((transcript.filter fun emission =>
    emission.stream = .err || emission.stream = .childErr).map (·.text))

end Stream

end VerifiedBuild
