import KeypadBridge.Client.PhysicalLock

/-! Provisioning a lock: the commands that install the shared key run over one encrypted
session, and a lock-info request under the installed key verifies it over a second one, on
the same connection.
-/

namespace KeypadBridge

-----------------------------------------------------------------------------------------
-- Lock info
-----------------------------------------------------------------------------------------

namespace PhysicalLockModel

/-- `lock_info_plaintext`: the state request of a model, if the model is supported. -/
def lockInfoPlaintext (model : PhysicalLockModel) : Option Bytes :=
  if model = lock ∨ model = lockLite then some [0x0F, 0x4F, 0x81, 0x01]
  else if model = lockPro then some [0x0F, 0x4F, 0x81, 0x04]
  else if model = lockUltra then some [0x0F, 0x4F, 0x81, 0x07]
  else if model = lockVision ∨ model = lockVisionPro then some [0x0F, 0x4F, 0x81, 0x02]
  else if model = lockProWifi then some [0x0F, 0x4F, 0x81, 0x0A]
  else none

/-- `lock_status_byte_plausible`. -/
def statusBytePlausible (model : PhysicalLockModel) (state : UInt8) : Bool :=
  if model = lock ∨ model = lockLite ∨ model = lockVision ∨ model = lockVisionPro then
    (state &&& 0x70) >>> 4 ≤ 6
  else if model = lockPro ∨ model = lockUltra ∨ model = lockProWifi then
    (state &&& 0x78) >>> 3 ≤ 6
  else false

/-- `lock_info_response_plausible`: a reply in the keypad's shape, or in the app's. -/
def infoResponsePlausible (model : PhysicalLockModel) (response : Bytes) : Bool :=
  if response.isEmpty then false
  else if response.length = 14 ∧ response.getD 1 0 = 0x08 ∧ response.getD 3 0 = 0x41
      ∧ response.getD 8 0 = 0x80 then
    lock.statusBytePlausible (response.getD 0 0)
  else response.length ≥ 6 && model.statusBytePlausible (response.getD 0 0)

end PhysicalLockModel

-----------------------------------------------------------------------------------------
-- Provisioning and verification
-----------------------------------------------------------------------------------------

namespace PhysicalLockClient

section

variable (keystream : Keystream) (gcm : AesGcm) {Peer : Type} (link : Link Peer)

/-- `run_session` of `provision_and_verify_shared_key`. -/
def runNamedSession (config : Config) (sessionName : String) (commands : List Bytes)
    (peer : Peer)
    : Exchange × Peer :=
  let (written, peer) := link.writeValue (ivRequestOf config) peer
  if !written then
    (.failed ("Could not request a " ++ sessionName ++ " encryption session."), peer)
  else
    match link.waitNotify peer with
    | (none, peer) =>
        (.failed ("Lock did not open the " ++ sessionName ++ " encryption session."), peer)
    | (some notify, peer) =>
        match parseSessionResponse notify {} with
        | .error error => (.failed error, peer)
        | .ok session => sendCommands keystream gcm link config session commands peer

/-- What `provision_and_verify_shared_key` makes of the answers to its lock-info request. -/
def verifyResponses (model : PhysicalLockModel) (responses : List Bytes)
    : Except String Unit :=
  if (responses.headD []).isEmpty then
    .error "Shared key verified but no lock-info payload was returned."
  else if !model.infoResponsePlausible (responses.headD []) then
    .error "The lock answered, but the shared-key lock-info payload was not valid."
  else .ok ()

/-- `provision_and_verify_shared_key` between subscription and clean-up. The responses are
those of the provisioning session.
-/
def provisionThenVerify (provisioningConfig sharedConfig : Config) (commands : List Bytes)
    (verifyCmd : Bytes) (peer : Peer)
    : Exchange × Peer :=
  let (provisioned, peer) :=
    runNamedSession keystream gcm link provisioningConfig "lock provisioning" commands peer
  match provisioned.result with
  | .error error => (⟨.error error, provisioned.responses⟩, peer)
  | .ok () =>
      let (verified, peer) :=
        runNamedSession keystream gcm link sharedConfig "shared-key verification" [verifyCmd]
          peer
      match verified.result with
      | .error error => (⟨.error error, provisioned.responses⟩, peer)
      | .ok () =>
          (⟨verifyResponses sharedConfig.model verified.responses, provisioned.responses⟩, peer)

/-- `provision_and_verify_shared_key`. -/
def provisionAndVerifySharedKey (provisioningConfig : Config)
    (provisionCommands : List Bytes) (sharedConfig : Config) (peer : Peer)
    : Exchange × Peer :=
  if provisionCommands.isEmpty then
    (.failed "Empty lock provisioning command sequence.", peer)
  else if provisionCommands.any List.isEmpty then
    (.failed "Empty lock provisioning command.", peer)
  else
    match sharedConfig.model.lockInfoPlaintext with
    | none => (.failed "Unsupported SwitchBot Lock model.", peer)
    | some verifyCmd =>
        match link.connect provisioningConfig peer with
        | (.error error, peer) => (.failed error, peer)
        | (.ok (), peer) =>
            if !link.createSemaphore peer then
              (.failed "Could not allocate lock notification semaphore.", link.disconnect peer)
            else
              let (subscribed, peer) := link.subscribe peer
              if !subscribed then
                (.failed "Could not subscribe to lock notifications.", link.disconnect peer)
              else
                let (exchange, peer) :=
                  provisionThenVerify keystream gcm link provisioningConfig sharedConfig
                    provisionCommands verifyCmd peer
                (exchange, link.disconnect peer)

end

end PhysicalLockClient

end KeypadBridge
