import SchemaChecks.Files.Program

/-!
Hosts: a disk, a working directory, a log, and what has been written to the two streams. A host
answers every request of a program.
-/

namespace SchemaChecks

structure Host where
  disk : Disk
  here : Place
  log : Log
  /-- The texts written, in order. -/
  written : List (Stream × String)
  deriving DecidableEq, Repr

namespace Host

def guarded {α : Type} (p : Path) (result : FileResult α) : Reply α :=
  if p.isRefused then .error (.fault p.refusal)
  else
    match result with
    | .ok a => .ok a
    | .error kind => .error (.error ⟨kind, p.text, none⟩)

def change (h : Host) (p : Path) (result : FileResult Disk) : Reply Unit × Host :=
  match guarded p result with
  | .ok d => (.ok (), { h with disk := d })
  | .error e => (.error e, h)

def moved (h : Host) (source target : Path) : Reply Unit × Host :=
  match h.disk.replace h.here source target with
  | .ok d => (.ok (), { h with disk := d })
  | .error kind => (.error (.error ⟨kind, source.text, some target.text⟩), h)

def temporary (h : Host) (directory : Path) (stem : String) : Reply Path × Host :=
  let start := directory.join ⟨.relative, [s!".{stem}."]⟩
  match guarded start (h.disk.createTemporary h.here directory stem) with
  | .ok (p, d) => (.ok p, { h with disk := d })
  | .error e => (.error e, h)

def step : (r : Request) → Host → r.Answer × Host
  | .here, h => (h.here, h)
  | .kindOf p, h => (guarded p ((h.disk.nodeAt h.here p).map Node.kind), h)
  | .read p, h => (guarded p (h.disk.read h.here p), h)
  | .makeDirectory p, h => h.change p (h.disk.makeDirectory h.here p)
  | .createTemporary directory stem, h => h.temporary directory stem
  | .write p content, h => h.change p (h.disk.write h.here p content)
  | .replace source target, h => h.moved source target
  | .remove p, h => h.change p (h.disk.remove h.here p)
  | .splitLog level threshold, h =>
    ((), { h with log := h.log.split level threshold .standard })
  | .note r, h => ((), { h with written := h.written ++ h.log.deliver r })
  | .print stream text, h => ((), { h with written := h.written ++ [(stream, text)] })

def run {α : Type} (h : Host) (p : Program α) : α × Host := p.runWith step h

end Host

end SchemaChecks
