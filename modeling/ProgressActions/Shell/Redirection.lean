import ProgressActions.Shell.Expansion

/-!
# Redirections

A redirection lets a descriptor lead to a file, to a text of the script, or where another descriptor
leads. What the descriptors led to before is remembered, so that they lead there again afterwards.
-/

namespace ProgressActions.Shell

/-- A redirection whose words are expanded. -/
inductive Redirection where
  | file (descriptor : Nat) (access : Access) (path : Octets)
  /-- The descriptor leads where another one leads, or nowhere. -/
  | duplicate (descriptor : Nat) (source : Option Nat)
  | document (descriptor : Nat) (text : Document)

namespace Redirection

def descriptor : Redirection → Nat
  | .file n _ _ => n
  | .duplicate n _ => n
  | .document n _ => n

def ofRedirect (v : Services) : Redirect → Act Redirection
  | .file descriptor access target => do
    pure (.file descriptor access (← expandText v .text target))
  | .duplicate descriptor source => do
    match ← expandText v .text source with
    | ['-'] => pure (.duplicate descriptor none)
    | [c] =>
      if c.isDigit then pure (.duplicate descriptor (some (c.toNat - 48)))
      else Act.fail ("Bad fd number: ".toList ++ [c])
    | text => Act.fail ("Bad fd number: ".toList ++ text)
  | .document descriptor number => do
    pure (.document descriptor ((← get).documents.getD number default))

/-- The words for a refusal to open a file. -/
def complaint (isMade : Bool) (path : Octets) (e : SystemError) : Octets :=
  let reason := match e, isMade with
    | .missing, false => "No such file"
    | .notDirectory, false => "No such file"
    | .missing, true => "Directory nonexistent"
    | .notDirectory, true => "Directory nonexistent"
    | _, _ => e.description
  (if isMade then "cannot create " else "cannot open ").toList ++ path ++ ": ".toList ++ reason.toList

/-- How an output is opened by a shell that spares the files that exist. -/
def sparing (p : Process) (path : Octets) : Except SystemError OpenMode :=
  match p.node? path with
  | .error _ => .ok { writes := true, creates := true, exclusive := true }
  | .ok id => if p.machine.isRegular id then .error .alreadyExists else .ok { writes := true }

def openPath (access : Access) (path : Octets) : Act Nat := do
  let s ← get
  let mode : Except SystemError OpenMode := match access with
    | .input => .ok .reading
    | .both => .ok { reads := true, writes := true, creates := true }
    | .append => .ok .extending
    | .overwrite => .ok .replacing
    | .output => if s.options.contains 'C' then sparing s.process path else .ok .replacing
  let found ← match mode with
    | .ok mode => Act.work (Process.openFile path mode)
    | .error e => pure (.error e)
  match found with
  | .ok opened => pure opened
  | .error e => Act.fail (complaint (access != .input) path e)

def establish (v : Services) : Redirection → Act Unit
  | .file descriptor access path => do
    let opened ← openPath access path
    Act.onProcess (Process.setDescriptor descriptor opened)
  | .duplicate descriptor none => Act.onProcess (Process.closeDescriptor descriptor)
  | .duplicate descriptor (some source) => do
    if source ≠ descriptor then
      match (← get).process.openOf? source with
      | some opened => Act.onProcess (Process.setDescriptor descriptor opened)
      | none => Act.fail (Text.numeral source ++ ": Bad file descriptor".toList)
  | .document descriptor text => do
    let content ← if text.expands then expandText v { isQuoted := true } text.text
      else pure (bareText text.text)
    let (source, _) ← Act.work (Process.openPipe content)
    Act.onProcess (Process.setDescriptor descriptor source)

/-- Lets a descriptor lead where it led before. -/
def putBack (p : Process) : Nat × Option Nat → Process
  | (descriptor, some opened) => p.setDescriptor descriptor opened
  | (descriptor, none) => p.closeDescriptor descriptor

theorem openOf?_putBack (p : Process) (descriptor : Nat) (opened : Option Nat) :
    (putBack p (descriptor, opened)).openOf? descriptor = opened := by
  cases opened <;> simp [putBack]

end Redirection

namespace Act

def expandRedirects (v : Services) : List Redirect → Act (List Redirection)
  | [] => pure []
  | r :: rest => do
    let first ← Redirection.ofRedirect v r
    pure (first :: (← expandRedirects v rest))

def redirect (v : Services) : List Redirection → Act Unit
  | [] => pure ()
  | r :: rest => do
    r.establish v
    redirect v rest

/-- Establishes redirections. A complaint does not end the shell, and is told by the answer. -/
def redirectSafely (v : Services) (redirections : List Redirection) : Act Bool := do
  match ← attempt (redirect v redirections) with
  | .ok () => pure true
  | .error .failed => pure false
  | .error halt => throw halt

/-- Does something, after which the descriptors of redirections lead where they led before. -/
def restoring {α : Type} (redirections : List Redirection) (act : Act α) : Act α := do
  let p := (← get).process
  let before := redirections.map fun r ↦ (r.descriptor, p.openOf? r.descriptor)
  ensuring act (onProcess fun p ↦ before.reverse.foldl Redirection.putBack p)

end Act

end ProgressActions.Shell
