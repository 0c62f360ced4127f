import VoldDecrypt.Bytes
import VoldDecrypt.BlobStore
import VoldDecrypt.PasswordData
import VoldDecrypt.WeaverData
import VoldDecrypt.Platform
import VoldDecrypt.Run
import VoldDecrypt.Unwrap
import VoldDecrypt.SynthPass
import VoldDecrypt.Unlock
import VoldDecrypt.WeaverPath
import VoldDecrypt.Gatekeeper
import VoldDecrypt.PolicyRef
import VoldDecrypt.DecryptUser
import VoldDecrypt.MetadataOptions
import VoldDecrypt.MetadataRun
import VoldDecrypt.MetadataCrypt
import VoldDecrypt.MetadataSteps
import VoldDecrypt.MetadataMount
import VoldDecrypt.MetadataSystem
