import ClauseAudit.Digest.Blake2
import ClauseAudit.Digest.Md5
import ClauseAudit.Digest.Ripemd160
import ClauseAudit.Digest.Sha1
import ClauseAudit.Digest.Sha256
import ClauseAudit.Digest.Sha3
import ClauseAudit.Digest.Sha512
import ClauseAudit.Digest.Sm3
import ClauseAudit.Text.Case

/-!
# Digest algorithms by name

Algorithms are known by the names of two registries: short names that are spelled in one way, and
longer names in which case does not matter.
-/

namespace ClauseAudit.Digest

/-- An algorithm gives digests of one length, or of a length that has to be asked for. -/
inductive Algorithm where
  | fixed (digest : List UInt8 → List UInt8)
  | extendable

/-- Names spelled in one way. -/
def shortNames : List (String × Algorithm) :=
  [("sha512_224", .fixed Sha512.sha512To224), ("SHA512_224", .fixed Sha512.sha512To224),
   ("sha512_256", .fixed Sha512.sha512To256), ("SHA512_256", .fixed Sha512.sha512To256),
   ("sha3_224", .fixed (Sha3.digest 28)), ("sha3_256", .fixed (Sha3.digest 32)),
   ("sha3_384", .fixed (Sha3.digest 48)), ("sha3_512", .fixed (Sha3.digest 64)),
   ("shake_128", .extendable), ("shake_256", .extendable),
   ("blake2b", .fixed Blake2.blake2b), ("blake2s", .fixed Blake2.blake2s)]

/-- Names in lower case that may be spelled in any case. -/
def registryNames : List (List String × Algorithm) :=
  [(["md5", "ssl3-md5"], .fixed Md5.md5),
   (["md5-sha1"], .fixed fun m => Md5.md5 m ++ Sha1.sha1 m),
   (["sha1", "sha-1", "ssl3-sha1"], .fixed Sha1.sha1),
   (["sha224", "sha-224", "sha2-224"], .fixed Sha256.sha224),
   (["sha256", "sha-256", "sha2-256"], .fixed Sha256.sha256),
   (["sha384", "sha-384", "sha2-384"], .fixed Sha512.sha384),
   (["sha512", "sha-512", "sha2-512"], .fixed Sha512.sha512),
   (["sha512-224", "sha-512/224", "sha2-512/224"], .fixed Sha512.sha512To224),
   (["sha512-256", "sha-512/256", "sha2-512/256"], .fixed Sha512.sha512To256),
   (["sha3-224"], .fixed (Sha3.digest 28)), (["sha3-256"], .fixed (Sha3.digest 32)),
   (["sha3-384"], .fixed (Sha3.digest 48)), (["sha3-512"], .fixed (Sha3.digest 64)),
   (["shake128", "shake-128", "shake256", "shake-256"], .extendable),
   (["blake2b512", "blake2b-512"], .fixed Blake2.blake2b),
   (["blake2s256", "blake2s-256"], .fixed Blake2.blake2s),
   (["ripemd160", "ripemd-160", "ripemd", "rmd160"], .fixed Ripemd160.ripemd160),
   (["sm3"], .fixed Sm3.sm3), (["null"], .fixed fun _ => [])]

def Algorithm.ofName? (name : String) : Option Algorithm :=
  match shortNames.lookup name with
  | some a => some a
  | none =>
    let lowered := String.ofList
      (name.toList.map fun c => if c.val < 0x80 then Text.lowerHead c else c)
    (registryNames.find? (·.1.contains lowered)).map (·.2)

end ClauseAudit.Digest
