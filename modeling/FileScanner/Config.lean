import Mathlib.Algebra.Group.Nat.Defs

namespace FileScanner

structure Settings where
  testing : Bool := false
  defaultScanners : String := "\x7b\"malware\": [\"clamav\"]\x7d"
  defaultCategories : String := "malware"
  advisoryScanners : String := ""
  exavHosts : String := ""
  jcopBaseUrl : String := ""
  jcopApiKey : String := ""
  jcopSubmitTimeout : Nat := 600
  maxUploadSize : Nat := 100 * 1024 * 1024
  maxUrlSize : Nat := 2 ^ 31 - 3
  downloadMaxSeconds : Nat := 300
  encryptionMinChunkSize : Nat := 4096
  encryptionMaxChunkSize : Nat := 50 * 1024 * 1024
  allowedUrlHosts : String := ""
  ssrfAllowedHosts : String := ""
  webhookMaxAttempts : Nat := 3
  workerResultTtl : Nat := 0

end FileScanner
