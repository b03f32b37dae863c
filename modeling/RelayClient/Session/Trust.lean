import RelayClient.Session.Basic

/-!
# Trusting keys

The keys of a session can be stored under a password, so that a later session
resumes without pairing. Unlocking them also brings the push token back.
-/

namespace RelayClient

namespace Session

def nextDraw (session : Session) : Session × Draw :=
  ({ session with sealingsDrawn := session.sealingsDrawn + 1 }, session.chance.sealing session.sealingsDrawn)

def trustKeys (session : Session) (password : String) (auto : Bool) : Session × Except Failure Unit :=
  match session.link.pair, session.peerKey with
  | none, _ => (session, .error (.internal "no key pair to trust"))
  | some _, none => (session, .error (.internal "peer key not known yet"))
  | some pair, some peer =>
      let (session, draw) := session.nextDraw
      let (keys, result) := session.keys.store ⟨pair.secret, peer, session.push.token⟩ password auto draw
      ({ session with keys }, result)

/-- Opens the stored keys and tells how to resume with them, if any are stored and memory suffices. -/
def unlock (session : Session) (password : String) : Session × Except Failure (Option InitParams) :=
  let (session, draw) := session.nextDraw
  match session.keys.retrieve password draw with
  | (keys, .error failure) => ({ session with keys }, .error failure)
  | (keys, .ok none) => ({ session with keys }, .ok none)
  | (keys, .ok (some trusted)) =>
      let push := match trusted.token with
        | some token => session.push.hold token
        | none => session.push
      ({ session with keys, push },
        .ok (some { pair := some (.ofSecret trusted.secret), trustedPeer := some trusted.peer }))

end Session

end RelayClient
