import StorageBackends.Backend.Basic

namespace StorageBackends.Catalogue

/-!
# The built-in backends

The vendors that come with the service, each as a list of declared fields.
Several share the same groups of fields.
-/

/-- A declared field with its name. -/
abbrev Declaration :=
  String × FieldSpec

/-- An optional text field. -/
def textField (name description : String) : Declaration :=
  (name, .text description false none none)

/-- A required text field. -/
def requiredText (name description : String) : Declaration :=
  (name, .text description true none none)

/-- An optional field that is true or false. -/
def flagField (name description : String) : Declaration :=
  (name, .flag description false none)

/-- A field that takes one of some texts. -/
def choiceField
    (name : String)
    (values : List String)
    (description : String)
    (required : Bool) :
    Declaration :=
  (name, .choice values description required none)

/-- A text field kept in the secret. -/
def secretText
    (name key description : String)
    (required : Bool)
    (format : Option TextFormat) :
    Declaration :=
  (name, (FieldSpec.text description required format none).markSecret key)

/-- The management address and credentials of an array. -/
def arrayCredentials (product : String) : List Declaration :=
  [secretText "san_ip" "san-ip"
      (product ++ " management IP or FQDN") true (some .host),
    secretText "san_username" "san-username"
      (product ++ " management username") true none,
    secretText "san_password" "san-password"
      (product ++ " management password") true none]

/-- The options that every charm understands. -/
def commonFields : List Declaration :=
  [textField "volume_backend_name"
      "Name that Cinder will report for this backend",
    textField "backend_availability_zone"
      "Availability zone to associate with this backend"]

/-- The options of target authentication. -/
def targetAuthentication : List Declaration :=
  [flagField "use_chap_auth" "Enable CHAP authentication for iSCSI targets",
    secretText "chap_username" "chap-username" "CHAP username" false none,
    secretText "chap_password" "chap-password" "CHAP password" false none]

/-- The fields of the Hitachi VSP. -/
def hitachiFields : List Declaration :=
  arrayCredentials "Hitachi VSP" ++
    [requiredText "hitachi_storage_id"
        "Product number of the storage system",
      requiredText "hitachi_pools"
        "Comma separated list of DP pool names or IDs",
      choiceField "protocol" ["fc", "iscsi"]
        "Storage protocol (fc or iscsi)" true] ++
    commonFields ++
    [textField "hitachi_target_ports"
        "Comma separated list of controller ports for volume attachment",
      textField "hitachi_compute_target_ports"
        "Controller ports used to attach volumes to compute nodes",
      textField "hitachi_ldev_range"
        "Range of LDEV numbers usable by the driver",
      flagField "hitachi_zoning_request"
        "Create FC zones through the FC zone manager",
      flagField "hitachi_group_create"
        "Create host groups or iSCSI targets automatically",
      flagField "hitachi_group_delete"
        "Delete host groups or iSCSI targets that are no longer used"] ++
    targetAuthentication ++
    [textField "hitachi_mirror_storage_id"
        "Product number of the secondary storage system",
      textField "hitachi_mirror_pool"
        "Pool of the secondary storage system",
      secretText "hitachi_mirror_rest_user" "hitachi-mirror-rest-user"
        "Username of the secondary storage system REST API" false none,
      secretText "hitachi_mirror_rest_password" "hitachi-mirror-rest-password"
        "Password of the secondary storage system REST API" false none]

/-- The fields of the Pure Storage FlashArray. -/
def pureStorageFields : List Declaration :=
  [secretText "san_ip" "san-ip"
      "FlashArray management VIP or FQDN" true (some .host),
    secretText "pure_api_token" "pure-api-token"
      "FlashArray REST API token" true none,
    choiceField "protocol" ["iscsi", "fc", "nvme"]
      "Storage protocol (iscsi, fc or nvme)" true] ++
    commonFields ++
    [textField "driver_ssl_cert" "SSL certificate content in PEM format",
      textField "pure_iscsi_cidr"
        "CIDR of FlashArray iSCSI targets hosts may connect to",
      textField "pure_nvme_cidr"
        "CIDR of FlashArray NVMe targets hosts may connect to",
      choiceField "pure_nvme_transport" ["roce", "tcp"]
        "NVMe transport (roce or tcp)" false,
      choiceField "pure_host_personality"
        ["aix", "esxi", "hitachi-vsp", "hpux", "oracle-vm-server", "solaris",
          "vms"]
        "Host personality applied to hosts created on the array" false,
      flagField "pure_automatic_max_oversubscription_ratio"
        "Derive the oversubscription ratio from the array",
      flagField "pure_eradicate_on_delete"
        "Eradicate volumes immediately on delete"] ++
    targetAuthentication

/-- The fields of the Dell Storage Center. -/
def dellStorageCenterFields : List Declaration :=
  arrayCredentials "Dell Storage Center Data Collector" ++
    [requiredText "dell_sc_ssn" "Storage Center system serial number",
      choiceField "protocol" ["fc", "iscsi"]
        "Storage protocol (fc or iscsi)" true] ++
    commonFields ++
    [textField "dell_sc_api_port" "Data Collector REST API port",
      textField "dell_sc_server_folder"
        "Server folder to place new server definitions",
      textField "dell_sc_volume_folder"
        "Volume folder to place created volumes",
      flagField "dell_sc_verify_cert"
        "Verify the Data Collector HTTPS certificate",
      secretText "secondary_san_ip" "secondary-san-ip"
        "Secondary Data Collector IP or FQDN" false (some .host),
      secretText "secondary_san_username" "secondary-san-username"
        "Secondary Data Collector username" false none,
      secretText "secondary_san_password" "secondary-san-password"
        "Secondary Data Collector password" false none,
      textField "secondary_sc_api_port"
        "Secondary Data Collector REST API port",
      textField "excluded_domain_ips"
        "Comma separated list of iSCSI IPs to exclude",
      textField "included_domain_ips"
        "Comma separated list of iSCSI IPs to use exclusively"]

/-- The fields of the Dell PowerStore. -/
def dellPowerStoreFields : List Declaration :=
  arrayCredentials "Dell PowerStore" ++
    [choiceField "protocol" ["fc", "iscsi"]
        "Storage protocol (fc or iscsi)" false] ++
    commonFields ++
    [textField "driver_ssl_cert" "SSL certificate content in PEM format",
      flagField "powerstore_nvme"
        "Connect over NVMe instead of the selected protocol",
      textField "powerstore_ports"
        "Comma separated list of PowerStore iSCSI IPs or FC WWNs",
      textField "replication_device" "Replication target settings"]

/-- The Hitachi VSP. -/
def hitachi : Backend :=
  .ofSound "hitachi" "Hitachi VSP" hitachiFields (by decide +kernel)

/-- The Pure Storage FlashArray. -/
def pureStorage : Backend :=
  .ofSound "purestorage" "Pure Storage FlashArray" pureStorageFields
    (by decide +kernel)

/-- The Dell Storage Center. -/
def dellStorageCenter : Backend :=
  .ofSound "dellsc" "Dell Storage Center" dellStorageCenterFields
    (by decide +kernel)

/-- The Dell PowerStore. -/
def dellPowerStore : Backend :=
  .ofSound "dellpowerstore" "Dell PowerStore" dellPowerStoreFields
    (by decide +kernel)

/-- All built-in backends in the order of their registration. -/
def all : List Backend :=
  [hitachi, pureStorage, dellStorageCenter, dellPowerStore]

end StorageBackends.Catalogue
